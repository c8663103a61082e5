import HelpQuery.Proofs.Signs
import HelpQuery.Proofs.SpacedTexts
import HelpQuery.Proofs.WrittenBoosts
import HelpQuery.Query.Printed

/-!
# Items of query strings

A query string escapes nothing, and a pattern may hold parentheses, marks and carets.  Its items are
found by the spaces outside quotation marks; each atom has one for every field, and what closes
behind the last one is told by what follows.

    fieldsText fields a = fieldsText fields b → a = b                       (fieldsText_inj)
    groupText fields g ++ close ++ rest = groupText fields g' ++ close ++ rest' →
      g = g' ∧ rest = rest'                                                  (groupText_inj)
-/

namespace HelpQuery

/-! ## Atoms -/

/-- A text that is not empty and has neither spaces nor quotation marks. -/
def IsItem (text : String) : Prop := text ≠ "" ∧ ∀ c ∈ text.toList, c ≠ ' ' ∧ c ≠ '"'

namespace Atom

/-- Whether the text of an atom tells its kind: items, of which patterns alone have a wildcard. -/
def Legible : Atom → Prop
  | term text => IsItem text ∧ isWildcard text = false
  | wildcard pattern => IsItem pattern ∧ isWildcard pattern = true
  | phrase terms => ∀ t ∈ terms, IsItem t

theorem toList_queryString_phrase (terms : List String) :
    (phrase terms).queryString.toList =
      '"' :: [' '].intercalate (terms.map String.toList) ++ ['"'] := by
  simp [queryString, String.toList_intercalate]

theorem quote_not_mem_intercalate {terms : List String} (h : ∀ t ∈ terms, IsItem t) :
    '"' ∉ [' '].intercalate (terms.map String.toList) := by
  cases terms with
  | nil => simp
  | cons t terms =>
    obtain ⟨ht, hterms⟩ := List.forall_mem_cons.1 h
    rw [intercalate_space, List.mem_append, not_or]
    refine ⟨fun hin => (ht.2 _ hin).2 rfl, fun hin => ?_⟩
    obtain ⟨t', ht', hin⟩ := List.mem_flatMap.1 hin
    rcases List.mem_cons.1 hin with h | hin
    · exact absurd h (by decide)
    · exact ((hterms t' ht').2 _ hin).2 rfl

theorem spaced_queryString {a : Atom} (h : a.Legible) : Spaced 0 a.queryString.toList := by
  cases a with
  | term text => exact Spaced.word h.1.2
  | wildcard pattern => exact Spaced.word h.1.2
  | phrase terms =>
    rw [toList_queryString_phrase]
    exact Spaced.quoted (quote_not_mem_intercalate h)

theorem phrase_inj {terms terms' : List String} (h : ∀ t ∈ terms, IsItem t)
    (h' : ∀ t ∈ terms', IsItem t)
    (hsame : [' '].intercalate (terms.map String.toList) =
      [' '].intercalate (terms'.map String.toList)) : terms = terms' := by
  have hne : ∀ (t : String) (more : List Char), IsItem t → [] ≠ t.toList ++ more := by
    intro t more ht hnil
    exact ht.1 (String.toList_eq_nil_iff.1 (List.append_eq_nil_iff.1 hnil.symm).1)
  have hitems : ∀ terms : List String, (∀ t ∈ terms, IsItem t) →
      ∀ x ∈ terms.map String.toList, Spaced 0 x := by
    intro terms h x hx
    obtain ⟨t, ht, rfl⟩ := List.mem_map.1 hx
    exact Spaced.word (h t ht).2
  cases terms with
  | nil =>
    cases terms' with
    | nil => rfl
    | cons t' terms' =>
      rw [intercalate_space] at hsame
      exact absurd hsame (hne t' _ (h' t' List.mem_cons_self))
  | cons t terms =>
    cases terms' with
    | nil =>
      rw [intercalate_space] at hsame
      exact absurd hsame.symm (hne t _ (h t List.mem_cons_self))
    | cons t' terms' =>
      rw [intercalate_space, intercalate_space] at hsame
      have hspace := congrArg (' ' :: ·) hsame
      have hlists : (t :: terms).map String.toList = (t' :: terms').map String.toList :=
        flatMap_space_inj (hitems _ h) (hitems _ h')
          (by simpa [List.flatMap_map] using hspace)
      exact Function.Injective.list_map (fun _ _ => String.toList_inj.1) hlists

/-- The text of a legible atom determines it. -/
theorem queryString_inj {a b : Atom} (ha : a.Legible) (hb : b.Legible)
    (h : a.queryString = b.queryString) : a = b := by
  have hphrase : ∀ {terms : List String} {text : String}, IsItem text →
      (phrase terms).queryString ≠ text := by
    rintro terms _ hitem rfl
    refine (hitem.2 '"' ?_).2 rfl
    rw [toList_queryString_phrase]
    exact List.mem_cons_self
  have hkind : ∀ {text pattern : String}, isWildcard text = false → isWildcard pattern = true →
      text ≠ pattern := by
    rintro text _ hterm hpattern rfl
    rw [hterm] at hpattern
    cases hpattern
  cases a with
  | term text =>
    cases b with
    | term text' => exact congrArg term h
    | wildcard pattern => exact absurd h (hkind ha.2 hb.2)
    | phrase terms => exact absurd h.symm (hphrase ha.1)
  | wildcard pattern =>
    cases b with
    | term text => exact absurd h.symm (hkind hb.2 ha.2)
    | wildcard pattern' => exact congrArg wildcard h
    | phrase terms => exact absurd h.symm (hphrase ha.1)
  | phrase terms =>
    cases b with
    | term text => exact absurd h (hphrase hb.1)
    | wildcard pattern => exact absurd h (hphrase hb.1)
    | phrase terms' =>
      have hchars := congrArg String.toList h
      rw [toList_queryString_phrase, toList_queryString_phrase] at hchars
      exact congrArg phrase (phrase_inj ha hb
        (List.append_cancel_right (List.cons.inj hchars).2))

end Atom

/-! ## Atoms in fields -/

namespace Field

/-- A name of letters, digits and underscores. -/
def Legible (f : Field) : Prop :=
  f.name ≠ "" ∧ ∀ c ∈ f.name.toList, Text.isAlphanumeric c = true ∨ c = '_'

/-- The item of an atom in the field. -/
def text (f : Field) (a : Atom) : List Char :=
  f.name.toList ++ (':' :: a.queryString.toList) ++ (boostSuffix f.boost).toList

theorem Legible.ne {f : Field} (h : f.Legible) {c d : Char} (hc : c ∈ f.name.toList)
    (hd : Text.isAlphanumeric d = false) (hscore : d ≠ '_') : c ≠ d := by
  rintro rfl
  rcases h.2 c hc with halphanumeric | hc
  · rw [hd] at halphanumeric
    cases halphanumeric
  · exact hscore hc

theorem spaced_boostSuffix (boost : Single) : Spaced 0 (boostSuffix boost).toList := by
  unfold boostSuffix
  split
  · exact Spaced.nil
  · refine Spaced.word fun c hc => ?_
    rw [String.toList_append, List.mem_append] at hc
    rcases hc with hc | hc
    · obtain rfl := List.mem_singleton.1 hc
      decide
    · refine ⟨?_, ?_⟩
      · rintro rfl
        exact boost.not_mem_text (by decide) (by decide) hc
      · rintro rfl
        exact boost.not_mem_text (by decide) (by decide) hc

theorem Legible.spaced_text {f : Field} (h : f.Legible) {a : Atom} (ha : a.Legible) :
    Spaced 0 (f.text a) := by
  have hname : Spaced 0 f.name.toList := Spaced.word fun c hc =>
    ⟨h.ne hc (by decide) (by decide), h.ne hc (by decide) (by decide)⟩
  have hcolon : Spaced 0 [':'] := Spaced.word (by simp)
  exact (hname.append (hcolon.append (Atom.spaced_queryString ha))).append
    (spaced_boostSuffix f.boost)

end Field

/-- The items of an atom, one for each field. -/
def fieldsText (fields : List Field) (a : Atom) : List Char :=
  [' '].intercalate (fields.map (·.text a))

section Fields

variable {fields : List Field} (hfields : ∀ f ∈ fields, f.Legible)

include hfields

theorem spaced_fieldsText {a : Atom} (ha : a.Legible) :
    Spaced (fields.length - 1) (fieldsText fields a) := by
  cases fields with
  | nil => exact Spaced.nil
  | cons f fields =>
    obtain ⟨hf, hfields⟩ := List.forall_mem_cons.1 hfields
    have hrest := Spaced.flatMap fun f hin => (hfields f hin).spaced_text ha
    rw [fieldsText, intercalate_space, List.length_cons, Nat.add_sub_cancel,
      ← Nat.zero_add fields.length]
    exact (hf.spaced_text ha).append hrest

/-- The items of an atom determine it: they begin with its text in the first field. -/
theorem fieldsText_inj (hne : fields ≠ []) {a b : Atom} (ha : a.Legible) (hb : b.Legible)
    (h : fieldsText fields a = fieldsText fields b) : a = b := by
  cases fields with
  | nil => exact absurd rfl hne
  | cons f fields =>
    have hf := hfields f List.mem_cons_self
    have hend : ∀ a : Atom, Ended (fields.flatMap fun f => ' ' :: f.text a) := fun a => by
      simpa using ended_flatMap (f := (·.text a)) fields ended_nil
    rw [fieldsText, fieldsText, intercalate_space, intercalate_space] at h
    obtain ⟨hitem, -⟩ := (hf.spaced_text ha).append_inj (hf.spaced_text hb) (hend a) (hend b) h
    have hcolon := List.append_cancel_left (List.append_cancel_right hitem)
    exact Atom.queryString_inj ha hb (String.toList_inj.1 (List.cons.inj hcolon).2)

/-- The items start with a character of a name. -/
theorem fieldsText_eq_cons (hne : fields ≠ []) (a : Atom) :
    ∃ c cs, fieldsText fields a = c :: cs ∧ c ≠ '(' ∧ c ≠ '+' ∧ c ≠ '-' := by
  cases fields with
  | nil => exact absurd rfl hne
  | cons f fields =>
    have hf := hfields f List.mem_cons_self
    cases hname : f.name.toList with
    | nil => exact absurd (String.toList_eq_nil_iff.1 hname) hf.1
    | cons c cs =>
      have hc : c ∈ f.name.toList := by simp [hname]
      rw [fieldsText, intercalate_space, Field.text, hname]
      exact ⟨c, _, rfl, hf.ne hc (by decide) (by decide), hf.ne hc (by decide) (by decide),
        hf.ne hc (by decide) (by decide)⟩

end Fields

/-! ## Texts of trees -/

namespace Tree

theorem clauseStrings_eq_map (cs : List (Clause Tree)) :
    clauseStrings cs = cs.map fun c => c.requirement.mark ++
      if c.query.isGroup then "(" ++ c.query.queryString ++ ")" else c.query.queryString := by
  induction cs with
  | nil => rfl
  | cons c cs ih => rw [clauseStrings, ih, List.map_cons]

theorem toList_queryString_boolean (cs : List (Clause Tree)) :
    (boolean cs).queryString.toList =
      [' '].intercalate (cs.map fun c => c.requirement.mark.toList ++
        if c.query.isGroup then '(' :: c.query.queryString.toList ++ [')']
        else c.query.queryString.toList) := by
  rw [queryString, String.toList_intercalate, clauseStrings_eq_map, List.map_map]
  refine congrArg _ (List.map_congr_left fun c _ => ?_)
  rw [Function.comp_apply, String.toList_append]
  split
  · simp
  · rfl

/-- The text of one of several alternatives. -/
def alternativeText (tree : Tree) : List Char :=
  if tree.isGroup then '(' :: tree.queryString.toList ++ [')'] else tree.queryString.toList

theorem toList_queryString_any (trees : List Tree) :
    (any trees).queryString.toList = [' '].intercalate (trees.map alternativeText) := by
  rw [any, toList_queryString_boolean, List.map_map]
  rfl

theorem toList_queryString_leaf (f : Field) (a : Atom) :
    (leaf f.name a f.boost).queryString.toList = f.text a := by
  simp [queryString, Field.text]

theorem toList_queryString_any_leaves (fields : List Field) (a : Atom) :
    (any (fields.map fun f => .leaf f.name a f.boost)).queryString.toList =
      fieldsText fields a := by
  rw [toList_queryString_any, List.map_map, fieldsText]
  exact congrArg _ (List.map_congr_left fun f _ => toList_queryString_leaf f a)

end Tree

namespace FieldSet

theorem toList_queryString_query (fields : FieldSet) (a : Atom) :
    (fields.query a).queryString.toList = fieldsText fields.toList a := by
  unfold query
  split
  · next leaf h =>
    obtain ⟨f, hf, rfl⟩ := List.map_eq_singleton_iff.1 h
    rw [Tree.toList_queryString_leaf, fieldsText, hf, List.map_singleton,
      List.intercalate_singleton]
  · exact Tree.toList_queryString_any_leaves fields.toList a

theorem isGroup_query (fields : FieldSet) (a : Atom) :
    (fields.query a).isGroup = (fields.toList.length != 1) := by
  unfold query
  split
  · next leaf h =>
    obtain ⟨f, hf, rfl⟩ := List.map_eq_singleton_iff.1 h
    rw [hf]
    rfl
  · next h =>
    have hlength : fields.toList.length ≠ 1 := by
      intro hone
      obtain ⟨f, hf⟩ := List.length_eq_one_iff.1 hone
      exact h _ (by rw [hf]; rfl)
    exact (bne_iff_ne.2 hlength).symm

end FieldSet

/-! ## Groups -/

namespace SignedAtom

/-- The mark of a clause with the atom. -/
def mark (s : SignedAtom) : Char := if s.negated then '-' else '+'

/-- The items of an atom behind its mark, in parentheses if there is more than one. -/
def text (fields : FieldSet) (s : SignedAtom) : List Char :=
  s.mark :: if fields.toList.length != 1 then '(' :: fieldsText fields.toList s.atom ++ [')']
    else fieldsText fields.toList s.atom

end SignedAtom

/-- The query of a group of atoms. -/
def groupTree (fields : FieldSet) (atoms : List SignedAtom) : Tree :=
  .boolean (atoms.map (SignedAtom.clause fields))

/-- The items of a group of atoms. -/
def groupText (fields : FieldSet) (atoms : List SignedAtom) : List Char :=
  [' '].intercalate (atoms.map (SignedAtom.text fields))

theorem toList_queryString_groupTree (fields : FieldSet) (atoms : List SignedAtom) :
    (groupTree fields atoms).queryString.toList = groupText fields atoms := by
  rw [groupTree, Tree.toList_queryString_boolean, List.map_map, groupText]
  refine congrArg _ (List.map_congr_left fun s _ => ?_)
  have hmark : (if s.negated then Requirement.prohibited else .required).mark.toList =
      [s.mark] := by
    unfold SignedAtom.mark
    cases s.negated <;> decide
  rw [Function.comp_apply, SignedAtom.clause, hmark, fields.isGroup_query,
    fields.toList_queryString_query, SignedAtom.text, List.singleton_append]

namespace SignedAtom

theorem mark_inj {s s' : SignedAtom} (h : s.mark = s'.mark) : s.negated = s'.negated := by
  unfold mark at h
  cases hn : s.negated <;> cases hn' : s'.negated <;> simp [hn, hn'] at h ⊢

theorem mark_cases (s : SignedAtom) : s.mark = '+' ∨ s.mark = '-' := by
  unfold mark
  cases s.negated <;> simp

section Fields

variable {fields : FieldSet} (hfields : ∀ f ∈ fields.toList, f.Legible)

include hfields

theorem spaced_text {s : SignedAtom} (h : s.atom.Legible) :
    Spaced (fields.toList.length - 1) (s.text fields) := by
  have hmark : Spaced 0 [s.mark] := Spaced.word (by
    rcases s.mark_cases with h | h <;> simp [h])
  have hopen : Spaced 0 ['('] := Spaced.word (by simp)
  have hclose : Spaced 0 [')'] := Spaced.word (by simp)
  have hitems := spaced_fieldsText hfields h
  unfold text
  split
  · simpa using hmark.append ((hopen.append hitems).append hclose)
  · simpa using hmark.append hitems

theorem text_inj {s s' : SignedAtom} (h : s.atom.Legible) (h' : s'.atom.Legible)
    (hsame : s.text fields = s'.text fields) : s = s' := by
  obtain ⟨hmark, hitems⟩ := List.cons.inj hsame
  have hfieldsText : fieldsText fields.toList s.atom = fieldsText fields.toList s'.atom := by
    split at hitems
    · exact List.append_cancel_right (List.cons.inj hitems).2
    · exact hitems
  have hatom := fieldsText_inj hfields fields.ne_nil h h' hfieldsText
  obtain ⟨negated, a⟩ := s
  obtain ⟨negated', a'⟩ := s'
  exact congrArg₂ SignedAtom.mk (mark_inj hmark) hatom

end Fields

end SignedAtom

/-- Nothing follows, or a space and no mark of an atom. -/
def NoMark (rest : List Char) : Prop :=
  rest = [] ∨ ∃ c cs, rest = ' ' :: c :: cs ∧ c ≠ '+' ∧ c ≠ '-'

theorem NoMark.ended {rest : List Char} (h : NoMark rest) : Ended rest := by
  obtain rfl | ⟨c, cs, rfl, -⟩ := h
  · exact ended_nil
  · exact ended_space _

section Groups

variable (fields : FieldSet)

theorem groupText_singleton (s : SignedAtom) : groupText fields [s] = s.text fields := by
  rw [groupText, List.map_singleton, List.intercalate_singleton]

theorem groupText_cons_cons (s t : SignedAtom) (g : List SignedAtom) :
    groupText fields (s :: t :: g) = s.text fields ++ ' ' :: groupText fields (t :: g) := by
  rw [groupText, List.map_cons, List.map_cons, List.intercalate_cons_cons, ← List.map_cons,
    ← groupText, List.append_assoc]
  rfl

theorem groupText_eq_cons (s : SignedAtom) (g : List SignedAtom) :
    ∃ cs, groupText fields (s :: g) = s.mark :: cs := by
  rw [groupText, intercalate_space, SignedAtom.text, List.cons_append]
  exact ⟨_, rfl⟩

theorem not_noMark_groupText (s : SignedAtom) (g : List SignedAtom) (rest : List Char) :
    ¬ NoMark (' ' :: groupText fields (s :: g) ++ rest) := by
  obtain ⟨cs, hcs⟩ := groupText_eq_cons fields s g
  rintro (h | ⟨c, cs', h, hplus, hminus⟩)
  · cases h
  · rw [hcs] at h
    obtain rfl : s.mark = c := (List.cons.inj (List.cons.inj h).2).1
    exact s.mark_cases.elim hplus hminus

variable {fields}

/-- A group ends where no atom follows, so it can be told from what closes and follows it. -/
theorem groupText_inj (hfields : ∀ f ∈ fields.toList, f.Legible) {close : List Char}
    (hclose : Spaced 0 close) {rest rest' : List Char} (hrest : NoMark rest)
    (hrest' : NoMark rest') {s s' : SignedAtom} {g g' : List SignedAtom}
    (h : ∀ t ∈ s :: g, t.atom.Legible) (h' : ∀ t ∈ s' :: g', t.atom.Legible)
    (hsame : groupText fields (s :: g) ++ close ++ rest =
      groupText fields (s' :: g') ++ close ++ rest') : s :: g = s' :: g' ∧ rest = rest' := by
  have hopen : ∀ {s : SignedAtom}, s.atom.Legible →
      Spaced (fields.toList.length - 1) (s.text fields) := fun hs =>
    SignedAtom.spaced_text hfields hs
  have hclosed : ∀ {s : SignedAtom}, s.atom.Legible →
      Spaced (fields.toList.length - 1) (s.text fields ++ close) := fun hs =>
    (hopen hs).append hclose
  -- the end of one group cannot be where another atom of the other one follows
  have hend : ∀ {s s' t : SignedAtom} {g : List SignedAtom} {rest more : List Char},
      s.atom.Legible → s'.atom.Legible → NoMark rest →
      s.text fields ++ close ++ rest ≠
        s'.text fields ++ ' ' :: groupText fields (t :: g) ++ more := by
    intro s s' t g rest more hs hs' hrest heq
    rw [List.append_assoc (s'.text fields)] at heq
    obtain ⟨-, rfl⟩ := (hclosed hs).append_inj (hopen hs') hrest.ended (ended_space _) heq
    exact not_noMark_groupText fields t g more hrest
  induction g generalizing s s' g' with
  | nil =>
    have hs := h s List.mem_cons_self
    have hs' := h' s' List.mem_cons_self
    cases g' with
    | nil =>
      rw [groupText_singleton, groupText_singleton] at hsame
      obtain ⟨htext, rfl⟩ := (hclosed hs).append_inj (hclosed hs') hrest.ended hrest'.ended hsame
      rw [SignedAtom.text_inj hfields hs hs' (List.append_cancel_right htext)]
      exact ⟨rfl, rfl⟩
    | cons t' g' =>
      rw [groupText_singleton, groupText_cons_cons, List.append_assoc (_ ++ _) close] at hsame
      exact absurd hsame (hend hs hs' hrest)
  | cons t g ih =>
    obtain ⟨hs, hg⟩ := List.forall_mem_cons.1 h
    have hs' := h' s' List.mem_cons_self
    cases g' with
    | nil =>
      rw [groupText_singleton, groupText_cons_cons, List.append_assoc (_ ++ _) close] at hsame
      exact absurd hsame.symm (hend hs' hs hrest')
    | cons t' g' =>
      rw [groupText_cons_cons, groupText_cons_cons] at hsame
      simp only [List.append_assoc, List.cons_append] at hsame
      obtain ⟨htext, hmore⟩ :=
        (hopen hs).append_inj (hopen hs') (ended_space _) (ended_space _) hsame
      have hgroups := (List.cons.inj hmore).2
      rw [← List.append_assoc, ← List.append_assoc] at hgroups
      obtain ⟨hg', rfl⟩ := ih hg (List.forall_mem_cons.1 h').2 hgroups
      rw [SignedAtom.text_inj hfields hs hs' htext, hg']
      exact ⟨rfl, rfl⟩

end Groups

end HelpQuery
