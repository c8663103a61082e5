import Mathlib.Data.List.Basic

/-!
# Spaces outside quotation marks

Texts with paired quotation marks can be put behind one another and their outer spaces add up.  Two
such texts with the same number of outer spaces are found at the start of one text, if it goes on
with a space or not at all, only if they are the same.

    Spaced n a, Spaced n b, a ++ rest = b ++ rest' → a = b ∧ rest = rest'       (Spaced.append_inj)
-/

namespace HelpQuery

/-- The number of spaces that are not between quotation marks. -/
def outerSpaces (quoted : Bool) : List Char → Nat
  | [] => 0
  | c :: cs =>
    if c = '"' then outerSpaces (!quoted) cs
    else (if c = ' ' ∧ quoted = false then 1 else 0) + outerSpaces quoted cs

theorem outerSpaces_space (cs : List Char) :
    outerSpaces false (' ' :: cs) = outerSpaces false cs + 1 := by
  rw [outerSpaces, if_neg (by decide), if_pos ⟨rfl, rfl⟩, Nat.add_comm]

/-- A text with paired quotation marks and `n` spaces outside them. -/
def Spaced (n : Nat) (text : List Char) : Prop :=
  ∀ rest, outerSpaces false (text ++ rest) = n + outerSpaces false rest

/-- Nothing follows, or a space. -/
def Ended (rest : List Char) : Prop := ∀ c ∈ rest.head?, c = ' '

namespace Spaced

variable {m n : Nat} {a b : List Char}

theorem nil : Spaced 0 [] := fun _ => (Nat.zero_add _).symm

theorem append (ha : Spaced m a) (hb : Spaced n b) : Spaced (m + n) (a ++ b) := by
  intro rest
  rw [List.append_assoc, ha, hb, Nat.add_assoc]

/-- A text without spaces and quotation marks. -/
theorem word (h : ∀ c ∈ a, c ≠ ' ' ∧ c ≠ '"') : Spaced 0 a := by
  induction a with
  | nil => exact nil
  | cons c a ih =>
    obtain ⟨⟨hspace, hquote⟩, ha⟩ := List.forall_mem_cons.1 h
    intro rest
    rw [List.cons_append, outerSpaces, if_neg hquote, if_neg (fun hc => hspace hc.1), Nat.zero_add,
      ih ha rest]

/-- A text between quotation marks. -/
theorem quoted (h : '"' ∉ a) : Spaced 0 ('"' :: a ++ ['"']) := by
  intro rest
  have hinside : outerSpaces true (a ++ '"' :: rest) = outerSpaces false rest := by
    induction a with
    | nil => rfl
    | cons c a ih =>
      obtain ⟨hc, ha⟩ := not_or.1 (mt List.mem_cons.2 h)
      rw [List.cons_append, outerSpaces, if_neg (Ne.symm hc), if_neg (by simp), Nat.zero_add, ih ha]
  rw [Nat.zero_add, List.append_assoc, List.cons_append, outerSpaces, if_pos rfl]
  exact hinside

/-- Words and texts between quotation marks, each behind a space. -/
theorem flatMap {α : Type} {f : α → List Char} {xs : List α} (h : ∀ x ∈ xs, Spaced 0 (f x)) :
    Spaced xs.length (xs.flatMap fun x => ' ' :: f x) := by
  induction xs with
  | nil => exact nil
  | cons x xs ih =>
    obtain ⟨hx, hxs⟩ := List.forall_mem_cons.1 h
    intro rest
    rw [List.flatMap_cons, List.append_assoc, List.cons_append, outerSpaces_space, hx,
      ih hxs rest, List.length_cons]
    omega

/-- No more can follow up to the next space. -/
theorem append_inj (ha : Spaced n a) (hb : Spaced n b) {rest rest' : List Char} (hrest : Ended rest)
    (hrest' : Ended rest') (h : a ++ rest = b ++ rest') : a = b ∧ rest = rest' := by
  have hnil : ∀ {a more rest : List Char}, Spaced n a → Spaced n (a ++ more) →
      Ended (more ++ rest) → more = [] := by
    intro a more rest ha hmore hend
    cases more with
    | nil => rfl
    | cons c more =>
      obtain rfl : c = ' ' := hend c rfl
      have hcount := ha (' ' :: more)
      have hsame := hmore []
      rw [List.append_nil, hcount, outerSpaces_space, outerSpaces] at hsame
      omega
  rcases List.append_eq_append_iff.1 h with ⟨more, rfl, rfl⟩ | ⟨more, rfl, rfl⟩
  · obtain rfl := hnil ha hb hrest
    exact ⟨(List.append_nil a).symm, rfl⟩
  · obtain rfl := hnil hb ha hrest'
    exact ⟨List.append_nil b, rfl⟩

end Spaced

theorem ended_nil : Ended [] := by simp [Ended]

theorem ended_space (rest : List Char) : Ended (' ' :: rest) := by simp [Ended]

theorem ended_flatMap {α : Type} {f : α → List Char} (xs : List α) {rest : List Char}
    (h : Ended rest) : Ended (xs.flatMap (fun x => ' ' :: f x) ++ rest) := by
  cases xs with
  | nil => exact h
  | cons x xs => exact ended_space _

/-- Items separated by spaces: the first, and each other behind a space. -/
theorem intercalate_space {α : Type} (f : α → List Char) (x : α) (xs : List α) :
    [' '].intercalate ((x :: xs).map f) = f x ++ xs.flatMap fun y => ' ' :: f y := by
  induction xs generalizing x with
  | nil => simp
  | cons y xs ih =>
    rw [List.map_cons, List.map_cons, List.intercalate_cons_cons, ← List.map_cons, ih]
    simp

/-- Items behind spaces can be told apart. -/
theorem flatMap_space_inj {xs ys : List (List Char)} (hxs : ∀ x ∈ xs, Spaced 0 x)
    (hys : ∀ y ∈ ys, Spaced 0 y)
    (h : xs.flatMap (fun x => ' ' :: x) = ys.flatMap fun y => ' ' :: y) : xs = ys := by
  induction xs generalizing ys with
  | nil =>
    cases ys with
    | nil => rfl
    | cons y ys => cases h
  | cons x xs ih =>
    cases ys with
    | nil => cases h
    | cons y ys =>
      obtain ⟨hx, hxs'⟩ := List.forall_mem_cons.1 hxs
      obtain ⟨hy, hys'⟩ := List.forall_mem_cons.1 hys
      have hend : ∀ zs : List (List Char), Ended (zs.flatMap fun z => ' ' :: z) := fun zs => by
        simpa using ended_flatMap (f := id) zs ended_nil
      obtain ⟨rfl, hrest⟩ := hx.append_inj hy (hend xs) (hend ys) (List.cons.inj h).2
      rw [ih hxs' hys' hrest]

end HelpQuery
