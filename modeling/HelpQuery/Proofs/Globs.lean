import HelpQuery.Proofs.Engine
import HelpQuery.Proofs.Ranking

/-!
# Patterns are globs

The regular expression of a wildcard pattern is read back piece by piece, whatever characters the
pattern mixes, and the texts it denotes are those that the pattern stands for:

    RegexDenotes (p.flatMap wildcardCharRegex) t ↔ Globs p t     (denotes_flatMap_wildcardCharRegex)
    Fits p t ↔ Globs p t                                         (fits_iff_globs)

A point must not take the star of another piece for its own; no piece starts with one, so it does
not.
-/

namespace HelpQuery

/-! ## What is denoted -/

/-- The texts that a regular expression denotes from one end to the other: a backslash makes the
next character literal, a point is a character but a line feed, a point with a star any run of
those, and every other character stands for itself. -/
inductive RegexDenotes : List Char → List Char → Prop where
  | nil : RegexDenotes [] []
  | escaped {c : Char} {r t : List Char} : RegexDenotes r t → RegexDenotes ('\\' :: c :: r) (c :: t)
  | run {piece r t : List Char} : (∀ x ∈ piece, x ≠ '\n') → RegexDenotes r t →
      RegexDenotes ('.' :: '*' :: r) (piece ++ t)
  | point {x : Char} {r t : List Char} : x ≠ '\n' → r.head? ≠ some '*' → RegexDenotes r t →
      RegexDenotes ('.' :: r) (x :: t)
  | self {c : Char} {r t : List Char} : c ≠ '\\' → c ≠ '.' → RegexDenotes r t →
      RegexDenotes (c :: r) (c :: t)

/-- What may take the place of a character of a pattern: one character for a question mark, any run
for a star, line feeds excepted, and for all other characters themselves. -/
def StandsFor (c : Char) (piece : List Char) : Prop :=
  if c = '?' then ∃ x, x ≠ '\n' ∧ piece = [x]
  else if c = '*' then ∀ x ∈ piece, x ≠ '\n'
  else piece = [c]

/-- A text is obtained from a pattern by putting a piece in the place of each character. -/
def Globs (pattern text : List Char) : Prop :=
  ∃ pieces, List.Forall₂ StandsFor pattern pieces ∧ text = pieces.flatten

/-! ## Globs, one character after the other -/

theorem standsFor_question {piece : List Char} :
    StandsFor '?' piece ↔ ∃ x, x ≠ '\n' ∧ piece = [x] := by
  rw [StandsFor, if_pos rfl]

theorem standsFor_star {piece : List Char} : StandsFor '*' piece ↔ ∀ x ∈ piece, x ≠ '\n' := by
  rw [StandsFor, if_neg (by decide), if_pos rfl]

theorem standsFor_self {c : Char} (hone : c ≠ '?') (hstar : c ≠ '*') {piece : List Char} :
    StandsFor c piece ↔ piece = [c] := by
  rw [StandsFor, if_neg hone, if_neg hstar]

theorem globs_nil_iff {t : List Char} : Globs [] t ↔ t = [] := by
  constructor
  · rintro ⟨pieces, ⟨⟩, rfl⟩
    rfl
  · rintro rfl
    exact ⟨[], .nil, rfl⟩

theorem globs_cons_iff {c : Char} {p t : List Char} :
    Globs (c :: p) t ↔ ∃ piece rest, StandsFor c piece ∧ t = piece ++ rest ∧ Globs p rest := by
  constructor
  · rintro ⟨pieces, h, rfl⟩
    cases h with
    | cons hpiece hothers => exact ⟨_, _, hpiece, List.flatten_cons, _, hothers, rfl⟩
  · rintro ⟨piece, rest, hpiece, rfl, others, hothers, rfl⟩
    exact ⟨piece :: others, .cons hpiece hothers, List.flatten_cons.symm⟩

/-! ## Regular expressions, one piece after the other -/

theorem denotes_nil_iff {t : List Char} : RegexDenotes [] t ↔ t = [] := by
  constructor
  · rintro ⟨⟩
    rfl
  · rintro rfl
    exact .nil

theorem denotes_run_iff {r t : List Char} :
    RegexDenotes ('.' :: '*' :: r) t ↔
      ∃ piece rest, (∀ x ∈ piece, x ≠ '\n') ∧ t = piece ++ rest ∧ RegexDenotes r rest := by
  constructor
  · intro h
    cases h with
    | run hpiece h => exact ⟨_, _, hpiece, rfl, h⟩
    | point _ hstar => exact absurd rfl hstar
    | self _ hpoint => exact absurd rfl hpoint
  · rintro ⟨piece, rest, hpiece, rfl, h⟩
    exact .run hpiece h

theorem denotes_point_iff {r t : List Char} (hr : r.head? ≠ some '*') :
    RegexDenotes ('.' :: r) t ↔ ∃ x rest, x ≠ '\n' ∧ t = x :: rest ∧ RegexDenotes r rest := by
  constructor
  · intro h
    cases h with
    | run => exact absurd rfl hr
    | point hx _ h => exact ⟨_, _, hx, rfl, h⟩
    | self _ hpoint => exact absurd rfl hpoint
  · rintro ⟨x, rest, hx, rfl, h⟩
    exact .point hx hr h

theorem denotes_escaped_iff {c : Char} {r t : List Char} :
    RegexDenotes ('\\' :: c :: r) t ↔ ∃ rest, t = c :: rest ∧ RegexDenotes r rest := by
  constructor
  · intro h
    cases h with
    | escaped h => exact ⟨_, rfl, h⟩
    | self hslash => exact absurd rfl hslash
  · rintro ⟨rest, rfl, h⟩
    exact .escaped h

theorem denotes_self_iff {c : Char} (hslash : c ≠ '\\') (hpoint : c ≠ '.') {r t : List Char} :
    RegexDenotes (c :: r) t ↔ ∃ rest, t = c :: rest ∧ RegexDenotes r rest := by
  constructor
  · intro h
    cases h with
    | escaped => exact absurd rfl hslash
    | run => exact absurd rfl hpoint
    | point => exact absurd rfl hpoint
    | self _ _ h => exact ⟨_, rfl, h⟩
  · rintro ⟨rest, rfl, h⟩
    exact .self hslash hpoint h

/-- The regular expression of a character denotes what stands for it, in front of what is left. -/
theorem denotes_wildcardCharRegex (c : Char) {r t : List Char} (hr : r.head? ≠ some '*') :
    RegexDenotes (wildcardCharRegex c ++ r) t ↔
      ∃ piece rest, StandsFor c piece ∧ t = piece ++ rest ∧ RegexDenotes r rest := by
  have hself : ∀ (hone : c ≠ '?') (hstar : c ≠ '*'),
      (∃ rest, t = c :: rest ∧ RegexDenotes r rest) ↔
        ∃ piece rest, StandsFor c piece ∧ t = piece ++ rest ∧ RegexDenotes r rest := by
    intro hone hstar
    simp [standsFor_self hone hstar]
  unfold wildcardCharRegex
  split
  · next hstar =>
    subst hstar
    simp only [standsFor_star]
    exact denotes_run_iff
  · next hstar =>
    split
    · next hone =>
      subst hone
      rw [List.singleton_append, denotes_point_iff hr]
      simp only [standsFor_question]
      constructor
      · rintro ⟨x, rest, hx, rfl, h⟩
        exact ⟨[x], rest, ⟨x, hx, rfl⟩, rfl, h⟩
      · rintro ⟨_, rest, ⟨x, hx, rfl⟩, rfl, h⟩
        exact ⟨x, rest, hx, rfl, h⟩
    · next hone =>
      split
      · exact denotes_escaped_iff.trans (hself hone hstar)
      · next hspecial =>
        have hne : ∀ d ∈ regexSpecials, c ≠ d := by
          rintro d hd rfl
          exact hspecial (List.contains_iff_mem.2 hd)
        have hslash : c ≠ '\\' := hne '\\' (by decide)
        have hpoint : c ≠ '.' := hne '.' (by decide)
        exact (denotes_self_iff hslash hpoint).trans (hself hone hstar)

/-- The regular expression of a pattern denotes the texts that the pattern stands for. -/
theorem denotes_flatMap_wildcardCharRegex (p t : List Char) :
    RegexDenotes (p.flatMap wildcardCharRegex) t ↔ Globs p t := by
  induction p generalizing t with
  | nil => rw [List.flatMap_nil, denotes_nil_iff, globs_nil_iff]
  | cons c p ih =>
    rw [List.flatMap_cons, denotes_wildcardCharRegex c (head_flatMap_wildcardCharRegex p),
      globs_cons_iff]
    simp only [ih]

/-! ## Fitting -/

/-- A text that fits behind a run fits with the run in front. -/
theorem fits_star_append {p t piece : List Char} (hpiece : ∀ x ∈ piece, x ≠ '\n') (h : Fits p t) :
    Fits ('*' :: p) (piece ++ t) := by
  induction piece with
  | nil => exact .done h
  | cons x piece ih =>
    have hrest : ∀ y ∈ piece, y ≠ '\n' := fun y hy => hpiece y (List.mem_cons_of_mem x hy)
    exact .more (hpiece x List.mem_cons_self) (ih hrest)

theorem fits_of_standsFor {c : Char} {p t piece : List Char} (hpiece : StandsFor c piece)
    (h : Fits p t) : Fits (c :: p) (piece ++ t) := by
  by_cases hone : c = '?'
  · subst hone
    obtain ⟨x, hx, rfl⟩ := standsFor_question.1 hpiece
    exact .one hx h
  by_cases hstar : c = '*'
  · subst hstar
    exact fits_star_append (standsFor_star.1 hpiece) h
  obtain rfl := (standsFor_self hone hstar).1 hpiece
  exact .self hone hstar h

/-- Fitting a pattern is being obtained from it. -/
theorem fits_iff_globs (p t : List Char) : Fits p t ↔ Globs p t := by
  constructor
  · intro h
    induction h with
    | nil => exact globs_nil_iff.2 rfl
    | one hx _ ih => exact globs_cons_iff.2 ⟨[_], _, standsFor_question.2 ⟨_, hx, rfl⟩, rfl, ih⟩
    | done _ ih => exact globs_cons_iff.2 ⟨[], _, standsFor_star.2 (by simp), rfl, ih⟩
    | @more x _ _ hx _ ih =>
      -- The run of the shorter text is taken one character further.
      obtain ⟨piece, rest, hpiece, rfl, hrest⟩ := globs_cons_iff.1 ih
      have hlonger : ∀ y ∈ x :: piece, y ≠ '\n' :=
        List.forall_mem_cons.2 ⟨hx, standsFor_star.1 hpiece⟩
      exact globs_cons_iff.2 ⟨x :: piece, rest, standsFor_star.2 hlonger, rfl, hrest⟩
    | self hone hstar _ ih =>
      exact globs_cons_iff.2 ⟨[_], _, (standsFor_self hone hstar).2 rfl, rfl, ih⟩
  · intro h
    induction p generalizing t with
    | nil =>
      rw [globs_nil_iff.1 h]
      exact .nil
    | cons c p ih =>
      obtain ⟨piece, rest, hpiece, rfl, hrest⟩ := globs_cons_iff.1 h
      exact fits_of_standsFor hpiece (ih rest hrest)

/-! ## Patterns -/

/-- A term matches the regular expression of a pattern, as it is denoted and as it is run, just if
it is obtained from the pattern; so every pattern matches its own text. -/
theorem wildcardRegex_matches_iff_globs (pattern term : String) :
    (RegexDenotes (wildcardRegex pattern).toList term.toList ↔ Globs pattern.toList term.toList) ∧
      (regexMatches (wildcardRegex pattern) term = true ↔ Globs pattern.toList term.toList) ∧
      regexMatches (wildcardRegex pattern) pattern = true := by
  refine ⟨?_, ?_, ?_⟩
  · rw [wildcardRegex, String.toList_ofList]
    exact denotes_flatMap_wildcardCharRegex pattern.toList term.toList
  · rw [regexMatches_wildcardRegex]
    exact fits_iff_globs pattern.toList term.toList
  · rw [regexMatches_wildcardRegex]
    exact fits_self pattern.toList

example : regexMatches (wildcardRegex "c++?*\\") "c++11\\" = true := by decide

end HelpQuery
