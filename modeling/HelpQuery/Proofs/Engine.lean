import HelpQuery.Index.Engine
import HelpQuery.Proofs.Postings
import HelpQuery.Query.Meaning
import Mathlib.Data.List.Infix

/-!
# The engine finds what queries mean

The engine query of a tree holds of just the documents that the tree matches:

    tree.compile E s = .ok query →
      (query.holds d = true ↔ tree.Matches fun field => (d field).passages)   (Tree.holds_compile)

A wildcard goes through the regular expression of its pattern, which is read back element by
element, a phrase through the positions of its terms, and a phrase of one term through the term
alone.
-/

namespace HelpQuery

/-! ## Patterns -/

/-- No regular expression of a pattern starts with a star, so a point before it stays a point. -/
theorem head_flatMap_wildcardCharRegex (p : List Char) :
    (p.flatMap wildcardCharRegex).head? ≠ some '*' := by
  cases p with
  | nil => simp
  | cons c p =>
    rw [List.flatMap_cons, wildcardCharRegex]
    split
    · simp
    · next hstar =>
      split
      · simp
      · split
        · simp
        · simpa using hstar

namespace RegexItem

/-- The element that a character of a wildcard pattern becomes. -/
def ofWildcard (c : Char) : RegexItem :=
  if c = '*' then anyRun else if c = '?' then anyChar else literal c

theorem read_point {rest : List Char} (h : rest.head? ≠ some '*') :
    read ('.' :: rest) = anyChar :: read rest := by
  cases rest with
  | nil => rfl
  | cons c rest =>
    have hc : c ≠ '*' := by simpa using h
    rw [read]
    intro _ heq
    exact hc (List.cons.inj heq).1

theorem read_self {c : Char} (h : regexSpecials.contains c = false) (rest : List Char) :
    read (c :: rest) = literal c :: read rest := by
  have hslash : c ≠ '\\' := by rintro rfl; revert h; decide
  have hpoint : c ≠ '.' := by rintro rfl; revert h; decide
  rw [read]
  · rintro _ _ rfl
    exact absurd rfl hslash
  · rintro _ rfl
    exact absurd rfl hpoint
  · rintro rfl
    exact absurd rfl hpoint

/-- Reading the regular expression of a pattern gives one element for each of its characters. -/
theorem read_flatMap_wildcardCharRegex (p : List Char) :
    read (p.flatMap wildcardCharRegex) = p.map ofWildcard := by
  induction p with
  | nil => rfl
  | cons c p ih =>
    rw [List.flatMap_cons, List.map_cons, ← ih, wildcardCharRegex, ofWildcard]
    split
    · rfl
    · split
      · exact read_point (head_flatMap_wildcardCharRegex p)
      · split
        · rfl
        · next h => exact read_self (by simpa using h) _

end RegexItem

/-! ### Fitting one character after the other -/

theorem fits_nil_iff {t : List Char} : Fits [] t ↔ t = [] := by
  constructor
  · rintro ⟨⟩
    rfl
  · rintro rfl
    exact .nil

theorem not_fits_question_nil {p : List Char} : ¬ Fits ('?' :: p) [] := by
  rintro ⟨⟩

theorem fits_question_cons_iff {p t : List Char} {x : Char} :
    Fits ('?' :: p) (x :: t) ↔ x ≠ '\n' ∧ Fits p t := by
  constructor
  · intro h
    cases h with
    | one hx h => exact ⟨hx, h⟩
    | self h => exact absurd rfl h
  · rintro ⟨hx, h⟩
    exact .one hx h

theorem fits_star_nil_iff {p : List Char} : Fits ('*' :: p) [] ↔ Fits p [] := by
  constructor
  · rintro ⟨⟩
    assumption
  · exact .done

theorem fits_star_cons_iff {p t : List Char} {x : Char} :
    Fits ('*' :: p) (x :: t) ↔ Fits p (x :: t) ∨ x ≠ '\n' ∧ Fits ('*' :: p) t := by
  constructor
  · intro h
    cases h with
    | done h => exact .inl h
    | more hx h => exact .inr ⟨hx, h⟩
    | self _ h => exact absurd rfl h
  · rintro (h | ⟨hx, h⟩)
    · exact .done h
    · exact .more hx h

theorem not_fits_self_nil {p : List Char} {c : Char} (hstar : c ≠ '*') : ¬ Fits (c :: p) [] := by
  intro h
  cases h with
  | done => exact hstar rfl

theorem fits_self_cons_iff {p t : List Char} {c x : Char} (hone : c ≠ '?') (hstar : c ≠ '*') :
    Fits (c :: p) (x :: t) ↔ x = c ∧ Fits p t := by
  constructor
  · intro h
    cases h with
    | one => exact absurd rfl hone
    | done => exact absurd rfl hstar
    | more => exact absurd rfl hstar
    | self _ _ h => exact ⟨rfl, h⟩
  · rintro ⟨rfl, h⟩
    exact .self hone hstar h

namespace RegexItem

/-- The elements of a pattern match the texts that fit the pattern. -/
theorem matchAll_ofWildcard (p t : List Char) :
    matchAll (p.map ofWildcard) t = true ↔ Fits p t := by
  induction p generalizing t with
  | nil => rw [List.map_nil, matchAll_nil, List.isEmpty_iff, fits_nil_iff]
  | cons c p ih =>
    rw [List.map_cons, ofWildcard]
    split
    · next hstar =>
      subst hstar
      -- A run gives back one character after the other.
      induction t with
      | nil => rw [matchAll_anyRun_nil, ih, fits_star_nil_iff]
      | cons x t iht =>
        rw [matchAll_anyRun_cons, Bool.or_eq_true, Bool.and_eq_true, bne_iff_ne, ih, iht,
          fits_star_cons_iff]
    · next hstar =>
      split
      · next hone =>
        subst hone
        cases t with
        | nil => simpa using not_fits_question_nil
        | cons x t =>
          rw [matchAll_anyChar_cons, Bool.and_eq_true, bne_iff_ne, ih, fits_question_cons_iff]
      · next hone =>
        cases t with
        | nil => simpa using not_fits_self_nil hstar
        | cons x t =>
          rw [matchAll_literal_cons, Bool.and_eq_true, beq_iff_eq, ih, fits_self_cons_iff hone hstar]

end RegexItem

/-- The regular expression of a pattern matches the terms that fit the pattern. -/
theorem regexMatches_wildcardRegex (pattern term : String) :
    regexMatches (wildcardRegex pattern) term = true ↔ Fits pattern.toList term.toList := by
  rw [regexMatches, wildcardRegex, String.toList_ofList, RegexItem.read_flatMap_wildcardCharRegex,
    RegexItem.matchAll_ofWildcard]

/-! ## Leaves -/

/-- What the engine looks for on behalf of an atom holds where the atom is found. -/
theorem Atom.holds_lookup {E : Engine} {field : String} {a : Atom} {lookup : Lookup}
    (h : a.lookup E field = .ok lookup) (d : String → Postings) :
    lookup.holds d = true ↔ a.FoundIn (d field).passages := by
  have hterm : ∀ text, (Lookup.term field text).holds d = true ↔
      ∃ p ∈ (d field).passages, text ∈ p := by
    intro text
    rw [Lookup.holds, List.contains_iff_mem, Postings.mem_terms_iff]
  cases a with
  | term text =>
    cases h
    exact hterm text
  | wildcard pattern =>
    rw [Atom.lookup] at h
    split at h
    · cases h
      simp only [Lookup.holds, FoundIn, List.any_eq_true, regexMatches_wildcardRegex,
        Postings.mem_terms_iff]
      constructor
      · rintro ⟨t, ⟨p, hp, ht⟩, hfits⟩
        exact ⟨p, hp, t, ht, hfits⟩
      · rintro ⟨p, hp, t, ht, hfits⟩
        exact ⟨t, ⟨p, hp, ht⟩, hfits⟩
    · cases h
  | phrase terms =>
    match terms, h with
    | [], rfl => simp [Lookup.holds, FoundIn]
    | [text], rfl =>
      rw [hterm]
      simp [FoundIn, List.singleton_infix_iff]
    | first :: second :: rest, rfl =>
      have hne : first :: second :: rest ≠ [] := List.cons_ne_nil _ _
      rw [Lookup.holds, Postings.hasPhrase_iff _ hne, FoundIn, and_iff_right hne]

/-! ## Groups -/

/-- The engine reads a group as its meaning does. -/
theorem groupHolds_iff (clauses : List (Requirement × Bool)) :
    groupHolds clauses = true ↔ GroupMatches (clauses.map fun c => (c.1, c.2 = true)) := by
  simp only [groupHolds, GroupMatches, Bool.and_eq_true, Bool.or_eq_true, List.all_eq_true,
    List.any_eq_true, beq_iff_eq, bne_iff_ne, ne_eq, Bool.not_eq_true', Bool.not_eq_true,
    ← imp_iff_not_or, List.mem_map, forall_exists_index, and_imp, forall_apply_eq_imp_iff₂,
    exists_exists_and_eq_and, and_assoc]

namespace Tree

variable {E : Engine} {s : Schema} (d : String → Postings)

mutual

/-- The engine query of a tree holds of the documents that the tree matches. -/
theorem holds_compile {tree : Tree} {query : EngineQuery Single}
    (h : tree.compile E s = .ok query) :
    query.holds d = true ↔ tree.Matches fun field => (d field).passages := by
  match tree with
  | leaf field atom boost =>
    rw [compile] at h
    cases hfield : s.textField field with
    | error fault => rw [hfield] at h; cases h
    | ok kind =>
      cases hlookup : atom.lookup E field with
      | error fault => rw [hfield, hlookup] at h; cases h
      | ok lookup =>
        rw [hfield, hlookup] at h
        cases h
        rw [EngineQuery.holds, Matches]
        exact Atom.holds_lookup hlookup d
  | boolean cs =>
    rw [compile] at h
    cases hcs : compileClauses E s cs with
    | error fault => rw [hcs] at h; cases h
    | ok queries =>
      rw [hcs] at h
      cases h
      rw [EngineQuery.holds, Matches, groupHolds_iff, clausesHold_compileClauses hcs]

theorem clausesHold_compileClauses {cs : List (Clause Tree)}
    {queries : List (Clause (EngineQuery Single))} (h : compileClauses E s cs = .ok queries) :
    (EngineQuery.clausesHold d queries).map (fun c => (c.1, c.2 = true)) =
      clauseMatches (fun field => (d field).passages) cs := by
  match cs with
  | [] =>
    rw [compileClauses] at h
    cases h
    rfl
  | ⟨requirement, query⟩ :: rest =>
    rw [compileClauses] at h
    cases hquery : query.compile E s with
    | error fault => rw [hquery] at h; cases h
    | ok q =>
      cases hrest : compileClauses E s rest with
      | error fault => rw [hquery, hrest] at h; cases h
      | ok qs =>
        rw [hquery, hrest] at h
        cases h
        rw [EngineQuery.clausesHold, List.map_cons, clauseMatches,
          clausesHold_compileClauses hrest, propext (holds_compile hquery)]

end

end Tree

end HelpQuery
