import HelpQuery.Proofs.Matching
import HelpQuery.Query.Compiler

/-!
# Ranking changes no matches

The whole-query phrases are alternatives to the tree of a plain word query.  A passage with all its
terms next to each other has every one of them, and a wildcard, which the phrase spells out, fits
its own spelling: where a phrase is found, the tree matches already.

    (enhance tree parts fields factor).Matches d ↔ tree.Matches d    when build fields parts = tree
-/

namespace HelpQuery

/-! ## Patterns -/

/-- Every pattern fits its own text. -/
theorem fits_self (pattern : List Char) : Fits pattern pattern := by
  induction pattern with
  | nil => exact .nil
  | cons c rest ih =>
    by_cases hq : c = '?'
    · subst hq
      exact .one (by decide) ih
    by_cases hs : c = '*'
    · subst hs
      exact .more (by decide) (.done ih)
    exact .self hq hs ih

/-! ## Plain word queries -/

/-- A word of a phrase is found where the phrase is. -/
theorem Atom.foundIn_of_phrase {passages : List (List String)} {terms : List String} {a : Atom}
    (hword : a.isPlainWord = true) (hterms : a.terms ⊆ terms)
    (h : (phrase terms).FoundIn passages) : a.FoundIn passages := by
  obtain ⟨-, p, hp, hinfix⟩ := h
  have hmem : ∀ t ∈ a.terms, t ∈ p := fun t ht => hinfix.subset (hterms ht)
  cases a with
  | term text => exact ⟨p, hp, hmem text (by simp [Atom.terms])⟩
  | wildcard pattern =>
    exact ⟨p, hp, pattern, hmem pattern (by simp [Atom.terms]), fits_self _⟩
  | phrase ts => cases hword

theorem or_not_mem_plain {parts : List Part} (h : isPlainWordQuery parts = true) :
    .operator .or ∉ parts := by
  intro hor
  have hword : (Part.operator .or).isPlainWord = true := List.all_eq_true.1 h _ hor
  cases hword

/-- The atoms of a plain word query are its parts, and none is negated. -/
theorem mem_signedAtoms_plain {parts : List Part} (h : isPlainWordQuery parts = true)
    (s : SignedAtom) :
    s ∈ signedAtoms false parts ↔ s.negated = false ∧ .atom s.atom ∈ parts := by
  induction parts with
  | nil => simp [signedAtoms]
  | cons x rest ih =>
    have hx : x.isPlainWord = true ∧ isPlainWordQuery rest = true := by
      simpa [isPlainWordQuery] using h
    cases x with
    | atom a =>
      rw [signedAtoms, List.mem_cons, ih hx.2]
      obtain ⟨negated, b⟩ := s
      simp only [SignedAtom.mk.injEq, List.mem_cons, Part.atom.injEq]
      tauto
    | operator op => cases hx.1

/-- A plain word query finds the documents that have each of its words in some field. -/
theorem finds_build_plain {parts : List Part} (fields : FieldSet) (hne : parts ≠ [])
    (h : isPlainWordQuery parts = true) (d : Document) :
    Finds d (build fields parts) ↔ ∀ a, .atom a ∈ parts → a.FoundInAny fields d := by
  rw [finds_build_single fields (or_not_mem_plain h)]
  simp only [mem_signedAtoms_plain h]
  constructor
  · rintro ⟨-, hall⟩ a ha
    exact hall ⟨false, a⟩ ⟨rfl, ha⟩
  · intro hall
    obtain ⟨x, hx⟩ := List.exists_mem_of_ne_nil parts hne
    have hword : x.isPlainWord = true := List.all_eq_true.1 h x hx
    cases x with
    | atom a =>
      refine ⟨⟨⟨false, a⟩, ⟨rfl, hx⟩, rfl⟩, ?_⟩
      rintro ⟨negated, b⟩ ⟨rfl, hb⟩
      exact hall b hb
    | operator op => cases hword

/-! ## Whole-query phrases -/

/-- A document with the whole-query phrase in a field matches the query without it. -/
theorem finds_build_of_wholePhrase {parts : List Part} (fields : FieldSet) (hne : parts ≠ [])
    (h : isPlainWordQuery parts = true) {d : Document} {f : Field} (hf : f ∈ fields.toList)
    (hphrase : (Atom.phrase (partTerms parts)).FoundIn (d f.name)) :
    Finds d (build fields parts) := by
  rw [finds_build_plain fields hne h]
  intro a ha
  have hword : a.isPlainWord = true := List.all_eq_true.1 h _ ha
  refine ⟨f, hf, Atom.foundIn_of_phrase hword (fun t ht => ?_) hphrase⟩
  exact List.mem_flatMap.2 ⟨.atom a, ha, ht⟩

/-- The whole-query phrases add no document. -/
theorem matches_enhance {parts : List Part} {fields : FieldSet} {tree : Tree}
    (htree : build fields parts = some tree) (factor : Single) (d : Document) :
    (enhance tree parts fields factor).Matches d ↔ tree.Matches d := by
  unfold enhance
  split
  · next h =>
    obtain ⟨hne, hplain⟩ := h
    rw [Tree.matches_any]
    constructor
    · rintro ⟨q, hq, hd⟩
      rcases List.mem_cons.1 hq with rfl | hq
      · exact hd
      · obtain ⟨f, hf, rfl⟩ := List.mem_map.1 hq
        rw [wholePhrase, Tree.matches_leaf] at hd
        have := finds_build_of_wholePhrase fields hne hplain hf hd
        rwa [htree, finds_some] at this
    · intro hd
      exact ⟨tree, List.mem_cons_self, hd⟩
  · rfl

/-! ## Compiled queries -/

namespace Compiler

theorem parts_compile (c : Compiler) (raw : String) :
    (c.compile raw).parts = analyzeTokens c.analyzer (Token.scan raw) := rfl

/-- The tree built for a raw query before its ranking is improved. -/
theorem tree?_compile (c : Compiler) (raw : String) :
    (c.compile raw).tree? =
      if c.options.improveRanking then
        (build c.fields (c.compile raw).parts).map
          (enhance · (c.compile raw).parts c.fields c.options.phraseBoostFactor)
      else build c.fields (c.compile raw).parts := rfl

/-- The tree of a query is the one that is built, or has the whole-query phrases of plain words
beside it. -/
theorem tree_cases (c : Compiler) (raw : String) {tree : Tree}
    (h : (c.compile raw).tree? = some tree) :
    ∃ built, build c.fields (c.compile raw).parts = some built ∧
      (tree = built ∨ isPlainWordQuery (c.compile raw).parts = true ∧
        tree = .any (built :: c.fields.toList.map
          (wholePhrase (c.compile raw).parts c.options.phraseBoostFactor))) := by
  rw [c.tree?_compile] at h
  split at h
  · obtain ⟨built, hbuilt, rfl⟩ := Option.map_eq_some_iff.1 h
    refine ⟨built, hbuilt, ?_⟩
    unfold enhance
    split
    · next hplain => exact Or.inr ⟨hplain.2, rfl⟩
    · exact Or.inl rfl
  · exact ⟨tree, h, Or.inl rfl⟩

theorem isSome_compile (c : Compiler) (raw : String) :
    (c.compile raw).tree?.isSome = (build c.fields (c.compile raw).parts).isSome := by
  rw [tree?_compile]
  split <;> simp

/-- A compiled query finds what the tree built from its parts finds. -/
theorem finds_compile (c : Compiler) (raw : String) (d : Document) :
    Finds d (c.compile raw).tree? ↔ Finds d (build c.fields (c.compile raw).parts) := by
  rw [tree?_compile]
  split
  · cases h : build c.fields (c.compile raw).parts with
    | none => simp
    | some tree => simp [matches_enhance h]
  · rfl

/-- With and without the improved ranking a query has a tree or has none, and both trees match the
same documents. -/
theorem compile_improveRanking_rel (analyzer : Analyzer) (fields : FieldSet) (factor : Single)
    (raw : String) :
    Option.Rel (fun improved plain => ∀ d : Document, improved.Matches d ↔ plain.Matches d)
      ((Compiler.mk analyzer fields ⟨true, factor⟩).compile raw).tree?
      ((Compiler.mk analyzer fields ⟨false, factor⟩).compile raw).tree? := by
  rw [tree?_compile, tree?_compile, if_pos rfl, if_neg Bool.false_ne_true]
  have hbuild : ∀ parts, Option.Rel (fun improved plain => ∀ d, improved.Matches d ↔ plain.Matches d)
      ((build fields parts).map (enhance · parts fields factor)) (build fields parts) := by
    intro parts
    cases h : build fields parts with
    | none => exact Option.Rel.none
    | some tree => exact Option.Rel.some (matches_enhance h factor)
  exact hbuild (analyzeTokens analyzer (Token.scan raw))

end Compiler

end HelpQuery
