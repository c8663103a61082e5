import HelpQuery.Proofs.Leaves
import HelpQuery.Proofs.QueryItems
import HelpQuery.Proofs.WrittenTokens

/-!
# Query strings

The tree of a compiled query is one group of atoms, or has several groups and maybe a phrase of all
terms as alternatives.  These start with a parenthesis or a mark and can be told from one another,
so the query string determines the tree.

    (o.tree fields factor).queryString = (o'.tree fields factor).queryString → o = o'
    t.queryString = t'.queryString → t = t'                  for trees of compiled queries
-/

namespace HelpQuery

/-! ## Outlines of trees -/

/-- What a compiled tree consists of: one group of atoms, or several groups as alternatives, and
maybe the terms of a phrase as further ones. -/
inductive Outline where
  | single (group : List SignedAtom)
  | several (first : List SignedAtom) (groups : List (List SignedAtom))
      (terms? : Option (List String))

/-- A group of atoms whose texts tell their kinds. -/
def LegibleGroup (g : List SignedAtom) : Prop := g ≠ [] ∧ ∀ s ∈ g, s.atom.Legible

/-- The fields with the boosts of whole-query phrases. -/
def phraseFields (fields : FieldSet) (factor : Single) : List Field :=
  fields.toList.map fun f => ⟨f.name, factor * f.boost⟩

namespace Outline

def Legible : Outline → Prop
  | single group => LegibleGroup group
  | several first groups terms? =>
    LegibleGroup first ∧ (∀ g ∈ groups, LegibleGroup g) ∧
      ∀ terms ∈ terms?, (Atom.phrase terms).Legible

/-- The leaves of a phrase in each field. -/
def phraseLeaves (fields : FieldSet) (factor : Single) (terms? : Option (List String)) :
    List Tree :=
  terms?.elim [] fun terms =>
    (phraseFields fields factor).map fun f => .leaf f.name (.phrase terms) f.boost

/-- The tree with an outline. -/
def tree (fields : FieldSet) (factor : Single) : Outline → Tree
  | single group => groupTree fields group
  | several first groups terms? =>
    .any ((first :: groups).map (groupTree fields) ++ phraseLeaves fields factor terms?)

/-- The text of a phrase behind groups. -/
def phraseRest (fields : FieldSet) (factor : Single) : Option (List String) → List Char
  | none => []
  | some terms => ' ' :: fieldsText (phraseFields fields factor) (.phrase terms)

/-- The text of groups and a phrase behind another group. -/
def groupsRest (fields : FieldSet) (factor : Single) (groups : List (List SignedAtom))
    (terms? : Option (List String)) : List Char :=
  groups.flatMap (fun g => ' ' :: '(' :: groupText fields g ++ [')']) ++
    phraseRest fields factor terms?

theorem flatMap_phraseLeaves (fields : FieldSet) (factor : Single)
    (terms? : Option (List String)) :
    (phraseLeaves fields factor terms?).flatMap (fun t => ' ' :: t.alternativeText) =
      phraseRest fields factor terms? := by
  cases terms? with
  | none => rfl
  | some terms =>
    have hleaf : ∀ f : Field, (Tree.leaf f.name (.phrase terms) f.boost).alternativeText =
        f.text (.phrase terms) := fun f => Tree.toList_queryString_leaf f _
    obtain ⟨f, fs, hfields⟩ : ∃ f fs, phraseFields fields factor = f :: fs :=
      List.exists_cons_of_ne_nil (by simpa [phraseFields] using fields.ne_nil)
    simp only [phraseLeaves, phraseRest, Option.elim_some, hfields, List.flatMap_map, hleaf,
      fieldsText, intercalate_space, List.flatMap_cons, List.cons_append]

theorem toList_queryString_several (fields : FieldSet) (factor : Single)
    (first : List SignedAtom) (groups : List (List SignedAtom)) (terms? : Option (List String)) :
    ((several first groups terms?).tree fields factor).queryString.toList =
      '(' :: (groupText fields first ++ [')'] ++ groupsRest fields factor groups terms?) := by
  have hgroup : ∀ g, (groupTree fields g).alternativeText =
      '(' :: groupText fields g ++ [')'] := by
    intro g
    rw [← toList_queryString_groupTree]
    rfl
  rw [tree, Tree.toList_queryString_any, List.map_cons, List.cons_append, intercalate_space]
  simp only [List.flatMap_append, List.flatMap_map, flatMap_phraseLeaves, hgroup, groupsRest,
    List.cons_append, List.append_assoc]

section Fields

variable {fields : FieldSet} (factor : Single) (hfields : ∀ f ∈ fields.toList, f.Legible)

include hfields

theorem legible_phraseFields : ∀ f ∈ phraseFields fields factor, f.Legible := by
  intro f hf
  obtain ⟨f', hf', rfl⟩ := List.mem_map.1 hf
  exact hfields f' hf'

/-- A phrase behind groups starts with the name of a field. -/
theorem phraseRest_cases (terms? : Option (List String)) :
    phraseRest fields factor terms? = [] ∧ terms? = none ∨
      ∃ c cs, phraseRest fields factor terms? = ' ' :: c :: cs ∧ c ≠ '(' ∧ c ≠ '+' ∧ c ≠ '-' := by
  cases terms? with
  | none => exact Or.inl ⟨rfl, rfl⟩
  | some terms =>
    have hne : phraseFields fields factor ≠ [] := by simpa [phraseFields] using fields.ne_nil
    obtain ⟨c, cs, htext, hc⟩ :=
      fieldsText_eq_cons (legible_phraseFields factor hfields) hne (.phrase terms)
    exact Or.inr ⟨c, cs, by rw [phraseRest, htext], hc⟩

theorem noMark_groupsRest (groups : List (List SignedAtom)) (terms? : Option (List String)) :
    NoMark (groupsRest fields factor groups terms?) := by
  cases groups with
  | nil =>
    rcases phraseRest_cases factor hfields terms? with ⟨h, -⟩ | ⟨c, cs, h, -, hc⟩
    · exact Or.inl h
    · exact Or.inr ⟨c, cs, h, hc⟩
  | cons g groups => exact Or.inr ⟨'(', _, rfl, by decide, by decide⟩

variable {factor}

theorem phraseRest_inj {terms? terms'? : Option (List String)}
    (hterms : ∀ terms ∈ terms?, (Atom.phrase terms).Legible)
    (hterms' : ∀ terms ∈ terms'?, (Atom.phrase terms).Legible)
    (h : phraseRest fields factor terms? = phraseRest fields factor terms'?) :
    terms? = terms'? := by
  cases terms? with
  | none =>
    cases terms'? with
    | none => rfl
    | some terms' => cases h
  | some terms =>
    cases terms'? with
    | none => cases h
    | some terms' =>
      have hne : phraseFields fields factor ≠ [] := by simpa [phraseFields] using fields.ne_nil
      have hphrase := fieldsText_inj (legible_phraseFields factor hfields) hne (hterms terms rfl)
        (hterms' terms' rfl) (List.cons.inj h).2
      rw [Atom.phrase.inj hphrase]

theorem phraseRest_ne_groupsRest (terms? terms'? : Option (List String)) (g : List SignedAtom)
    (groups : List (List SignedAtom)) :
    phraseRest fields factor terms? ≠ groupsRest fields factor (g :: groups) terms'? := by
  intro h
  rcases phraseRest_cases factor hfields terms? with ⟨hnil, -⟩ | ⟨c, cs, hcons, hc, -⟩
  · rw [hnil] at h
    cases h
  · rw [hcons] at h
    exact hc (List.cons.inj (List.cons.inj h).2).1

/-- A group in parentheses can be told from the groups and the phrase behind it. -/
theorem group_append_inj {g g' : List SignedAtom} (hg : LegibleGroup g) (hg' : LegibleGroup g')
    {rest rest' : List Char} (hrest : NoMark rest) (hrest' : NoMark rest')
    (h : groupText fields g ++ [')'] ++ rest = groupText fields g' ++ [')'] ++ rest') :
    g = g' ∧ rest = rest' := by
  obtain ⟨s, g, rfl⟩ := List.exists_cons_of_ne_nil hg.1
  obtain ⟨s', g', rfl⟩ := List.exists_cons_of_ne_nil hg'.1
  exact groupText_inj hfields (Spaced.word (by simp)) hrest hrest' hg.2 hg'.2 h

theorem groupsRest_inj {groups groups' : List (List SignedAtom)}
    {terms? terms'? : Option (List String)} (hgroups : ∀ g ∈ groups, LegibleGroup g)
    (hgroups' : ∀ g ∈ groups', LegibleGroup g)
    (hterms : ∀ terms ∈ terms?, (Atom.phrase terms).Legible)
    (hterms' : ∀ terms ∈ terms'?, (Atom.phrase terms).Legible)
    (h : groupsRest fields factor groups terms? = groupsRest fields factor groups' terms'?) :
    groups = groups' ∧ terms? = terms'? := by
  induction groups generalizing groups' with
  | nil =>
    cases groups' with
    | nil => exact ⟨rfl, phraseRest_inj hfields hterms hterms' h⟩
    | cons g' groups' => exact absurd h (phraseRest_ne_groupsRest hfields _ _ g' groups')
  | cons g groups ih =>
    cases groups' with
    | nil => exact absurd h.symm (phraseRest_ne_groupsRest hfields _ _ g groups)
    | cons g' groups' =>
      obtain ⟨hg, hmore⟩ := List.forall_mem_cons.1 hgroups
      obtain ⟨hg', hmore'⟩ := List.forall_mem_cons.1 hgroups'
      have hcons : ∀ g (groups : List (List SignedAtom)) terms?,
          groupsRest fields factor (g :: groups) terms? =
            ' ' :: '(' :: (groupText fields g ++ [')'] ++ groupsRest fields factor groups terms?) :=
        fun g groups terms? => by simp [groupsRest]
      rw [hcons, hcons] at h
      obtain ⟨rfl, hrest⟩ := group_append_inj hfields hg hg' (noMark_groupsRest factor hfields _ _)
        (noMark_groupsRest factor hfields _ _) (List.cons.inj (List.cons.inj h).2).2
      obtain ⟨rfl, rfl⟩ := ih hmore hmore' hrest
      exact ⟨rfl, rfl⟩

/-- The query string of a tree with an outline determines the outline. -/
theorem queryString_inj {o o' : Outline} (ho : o.Legible) (ho' : o'.Legible)
    (h : (o.tree fields factor).queryString = (o'.tree fields factor).queryString) : o = o' := by
  have hchars := congrArg String.toList h
  have hmark : ∀ {g : List SignedAtom} {cs : List Char}, LegibleGroup g →
      groupText fields g ≠ '(' :: cs := by
    rintro (_ | ⟨s, g⟩) cs hg heq
    · exact hg.1 rfl
    · obtain ⟨cs', htext⟩ := groupText_eq_cons fields s g
      rw [htext] at heq
      have hs := (List.cons.inj heq).1
      rcases s.mark_cases with hplus | hminus
      · exact absurd (hplus.symm.trans hs) (by decide)
      · exact absurd (hminus.symm.trans hs) (by decide)
  cases o with
  | single g =>
    rw [tree, toList_queryString_groupTree] at hchars
    cases o' with
    | single g' =>
      rw [tree, toList_queryString_groupTree] at hchars
      obtain ⟨s, g, rfl⟩ := List.exists_cons_of_ne_nil ho.1
      obtain ⟨s', g', rfl⟩ := List.exists_cons_of_ne_nil ho'.1
      rw [(groupText_inj hfields Spaced.nil (Or.inl rfl) (Or.inl rfl) ho.2 ho'.2
        (by simpa using hchars)).1]
    | several first' groups' terms'? =>
      rw [toList_queryString_several] at hchars
      exact absurd hchars (hmark ho)
  | several first groups terms? =>
    rw [toList_queryString_several] at hchars
    cases o' with
    | single g' =>
      rw [tree, toList_queryString_groupTree] at hchars
      exact absurd hchars.symm (hmark ho')
    | several first' groups' terms'? =>
      rw [toList_queryString_several] at hchars
      obtain ⟨rfl, hrest⟩ := group_append_inj hfields ho.1 ho'.1
        (noMark_groupsRest factor hfields _ _) (noMark_groupsRest factor hfields _ _)
        (List.cons.inj hchars).2
      obtain ⟨rfl, rfl⟩ := groupsRest_inj hfields ho.2.1 ho'.2.1 ho.2.2 ho'.2.2 hrest
      rfl

end Fields

end Outline

/-! ## Compiled queries -/

/-- Whether the terms of an analyzer are not empty and hold neither blanks nor marks. -/
def LegibleTerms (analyzer : Analyzer) : Prop :=
  ∀ word, ∀ term ∈ analyzer word,
    term ≠ "" ∧ ∀ c ∈ term.toList, Text.isBlank c = false ∧ c ≠ '"' ∧ c ≠ '?' ∧ c ≠ '*'

theorem isItem_of_chars {text : String} (hne : text ≠ "")
    (h : ∀ c ∈ text.toList, Text.isBlank c = false ∧ c ≠ '"') : IsItem text := by
  refine ⟨hne, fun c hc => ⟨?_, (h c hc).2⟩⟩
  rintro rfl
  exact absurd (h ' ' hc).1 (by decide)

theorem Atom.isItem_of_mem_terms {a : Atom} (h : a.Legible) : ∀ t ∈ a.terms, IsItem t := by
  cases a with
  | term text => exact fun t ht => List.mem_singleton.1 ht ▸ h.1
  | wildcard pattern => exact fun t ht => List.mem_singleton.1 ht ▸ h.1
  | phrase terms => exact h

theorem LegibleTerms.legible_of_mem_analyze {analyzer : Analyzer} (hterms : LegibleTerms analyzer)
    {t : Token} (ht : t.Proper) {a : Atom} (h : .atom a ∈ t.analyze analyzer) : a.Legible := by
  have hitem : ∀ word, ∀ term ∈ analyzer word, IsItem term := fun word term hterm =>
    isItem_of_chars (hterms word term hterm).1 fun c hc =>
      ⟨((hterms word term hterm).2 c hc).1, ((hterms word term hterm).2 c hc).2.1⟩
  cases t with
  | word text =>
    rw [Token.analyze_word] at h
    split at h
    · next hwildcard =>
      obtain rfl := Part.atom.inj (List.mem_singleton.1 h)
      exact ⟨isItem_of_chars ht.1 ht.2.1, hwildcard⟩
    · obtain ⟨term, hterm, heq⟩ := List.mem_map.1 h
      obtain rfl := Part.atom.inj heq
      refine ⟨hitem text term hterm, ?_⟩
      simpa [isWildcard] using fun c hc => ((hterms text term hterm).2 c hc).2.2
  | phrase text =>
    rw [Token.analyze_phrase] at h
    obtain rfl := Part.atom.inj (Part.mem_ofQuoted.1 h).2
    intro term hterm
    obtain ⟨word, -, hterm⟩ := List.mem_flatMap.1 hterm
    exact hitem word term hterm
  | operator op => cases List.mem_singleton.1 h

theorem exists_legibleGroup {fields : FieldSet} {group : List Part} {tree : Tree}
    (h : buildGroup fields group = some tree) (hatoms : ∀ a, .atom a ∈ group → a.Legible) :
    ∃ g, LegibleGroup g ∧ tree = groupTree fields g := by
  rw [buildGroup_eq_searchable?, searchable?] at h
  split at h
  · next hrequired =>
    obtain rfl := Option.some.inj h
    refine ⟨signedAtoms false group, ⟨?_, fun s hs => hatoms _ (atom_mem_of_mem_signedAtoms hs)⟩,
      rfl⟩
    intro hnil
    rw [hnil] at hrequired
    cases hrequired
  · cases h

theorem exists_eq_map {α β : Type} {f : α → β} {p : α → Prop} {ys : List β}
    (h : ∀ y ∈ ys, ∃ x, p x ∧ y = f x) : ∃ xs : List α, (∀ x ∈ xs, p x) ∧ ys = xs.map f := by
  induction ys with
  | nil => exact ⟨[], by simp, rfl⟩
  | cons y ys ih =>
    obtain ⟨hy, hys⟩ := List.forall_mem_cons.1 h
    obtain ⟨x, hx, rfl⟩ := hy
    obtain ⟨xs, hxs, rfl⟩ := ih hys
    exact ⟨x :: xs, List.forall_mem_cons.2 ⟨hx, hxs⟩, rfl⟩

namespace Compiler

variable (c : Compiler)

/-- The atoms of a compiled query are legible. -/
theorem legible_of_mem_parts (hterms : LegibleTerms c.analyzer) (raw : String) {a : Atom}
    (h : .atom a ∈ (c.compile raw).parts) : a.Legible := by
  rw [parts_compile] at h
  obtain ⟨t, ht, ha⟩ := mem_analyzeTokens.1 h
  exact hterms.legible_of_mem_analyze (Token.proper_of_mem_scan ht) ha

/-- The tree of a compiled query has a legible outline. -/
theorem exists_outline (hterms : LegibleTerms c.analyzer) (raw : String) {tree : Tree}
    (h : (c.compile raw).tree? = some tree) :
    ∃ o : Outline, o.Legible ∧ tree = o.tree c.fields c.options.phraseBoostFactor := by
  have hatoms : ∀ a, .atom a ∈ (c.compile raw).parts → a.Legible :=
    fun a => c.legible_of_mem_parts hterms raw
  obtain ⟨built, hbuilt, hcase⟩ := c.tree_cases raw h
  generalize (c.compile raw).parts = parts at hatoms hbuilt hcase
  have hgroups : ∀ t ∈ (orGroups parts).filterMap (buildGroup c.fields),
      ∃ g, LegibleGroup g ∧ t = groupTree c.fields g := by
    intro t ht
    obtain ⟨group, hgroup, hbuild⟩ := List.mem_filterMap.1 ht
    obtain ⟨before, after, hparts, -⟩ := (mem_orGroups_iff parts group).1 hgroup
    refine exists_legibleGroup hbuild fun a ha => hatoms a ?_
    rw [hparts]
    exact List.mem_append_left _ (List.mem_append_right _ ha)
  obtain ⟨groups, hlegible, hmap⟩ := exists_eq_map hgroups
  rw [build_eq_anyOf, hmap] at hbuilt
  cases groups with
  | nil => cases hbuilt
  | cons g groups =>
    obtain ⟨hg, hmore⟩ := List.forall_mem_cons.1 hlegible
    rcases hcase with rfl | ⟨hplain, rfl⟩
    · cases groups with
      | nil =>
        obtain rfl := Option.some.inj hbuilt
        exact ⟨.single g, hg, rfl⟩
      | cons g' groups =>
        obtain rfl := Option.some.inj hbuilt
        refine ⟨.several g (g' :: groups) none, ⟨hg, hmore, by simp⟩, ?_⟩
        exact congrArg Tree.any (List.append_nil _).symm
    · -- a query of plain words has no OR, so it is one group
      have hlength := congrArg List.length hmap
      have hone := List.length_filterMap_le (buildGroup c.fields) (orGroups parts)
      rw [orGroups_of_not_mem (or_not_mem_plain hplain)] at hlength hone
      obtain rfl : groups = [] := by
        rw [hlength] at hone
        simpa using hone
      obtain rfl := Option.some.inj hbuilt
      refine ⟨.several g [] (some (partTerms parts)), ⟨hg, hmore, ?_⟩, ?_⟩
      · rintro _ ⟨⟩ t ht
        obtain ⟨part, hpart, ht⟩ := List.mem_flatMap.1 ht
        cases part with
        | atom a => exact Atom.isItem_of_mem_terms (hatoms a hpart) t ht
        | operator op => cases ht
      · rw [Outline.tree, Outline.phraseLeaves, phraseFields, Option.elim_some, List.map_map]
        rfl

/-- If the names of the fields consist of letters, digits and underscores and the terms of the
analyzer are legible, a query string determines the tree of a compiled query. -/
theorem queryString_determines_tree
    (hnames : ∀ f ∈ c.fields.toList, ∀ x ∈ f.name.toList,
      Text.isAlphanumeric x = true ∨ x = '_')
    (hterms : LegibleTerms c.analyzer) {raw raw' : String} {tree tree' : Tree}
    (htree : (c.compile raw).tree? = some tree) (htree' : (c.compile raw').tree? = some tree')
    (h : tree.queryString = tree'.queryString) : tree = tree' := by
  have hfields : ∀ f ∈ c.fields.toList, f.Legible := fun f hf =>
    ⟨(c.fields.proper f hf).1, hnames f hf⟩
  obtain ⟨o, ho, rfl⟩ := c.exists_outline hterms raw htree
  obtain ⟨o', ho', rfl⟩ := c.exists_outline hterms raw' htree'
  rw [Outline.queryString_inj hfields ho ho' h]

/-- A compiler for two fields whose terms are the words with neither blanks nor marks. -/
def legibleCompiler : Compiler where
  analyzer word :=
    if word ≠ "" ∧ word.toList.all fun c => !Text.isBlank c && c != '"' && c != '?' && c != '*' then
      [word]
    else []
  fields := titleAndContents
  options := .default

theorem legibleTerms_legibleCompiler : LegibleTerms legibleCompiler.analyzer := by
  intro word term hterm
  unfold legibleCompiler at hterm
  simp only [] at hterm
  split at hterm
  · next hword =>
    obtain rfl := List.mem_singleton.1 hterm
    refine ⟨hword.1, fun c hc => ?_⟩
    simpa [and_assoc] using List.all_eq_true.1 hword.2 c hc
  · cases hterm

/-- A pattern may hold what closes an item; what has no part in a query does not show. -/
theorem queryString_determines_tree_closed :
    ∃ tree tree', (legibleCompiler.compile "a not not \"b  c\" x)* or not d").tree? = some tree ∧
      (legibleCompiler.compile "a and not \"b c\" x)*").tree? = some tree' ∧
      tree.queryString = tree'.queryString ∧ tree = tree' := by
  have hnames : ∀ f ∈ legibleCompiler.fields.toList,
      (f.name.toList.all fun x => Text.isAlphanumeric x || x == '_') = true := by decide
  have hstring : ((legibleCompiler.compile "a not not \"b  c\" x)* or not d").tree?.map
        Tree.queryString) =
      ((legibleCompiler.compile "a and not \"b c\" x)*").tree?.map Tree.queryString) := by
    decide +kernel
  have hsome : ((legibleCompiler.compile "a and not \"b c\" x)*").tree?).isSome = true := by
    decide +kernel
  obtain ⟨tree', htree'⟩ := Option.isSome_iff_exists.1 hsome
  rw [htree', Option.map_some] at hstring
  obtain ⟨tree, htree, hsame⟩ := Option.map_eq_some_iff.1 hstring
  refine ⟨tree, tree', htree, htree', hsame, ?_⟩
  refine queryString_determines_tree legibleCompiler (fun f hf x hx => ?_)
    legibleTerms_legibleCompiler htree htree' hsame
  simpa using List.all_eq_true.1 (hnames f hf) x hx

end Compiler

end HelpQuery
