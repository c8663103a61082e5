/-!
# Segments between separators

`segments p xs` cuts a list at every element that satisfies `p` and drops those elements.  There is
always one segment more than separators:

    segments p (a ++ x :: b) = segments p a ++ segments p b    when p x
    (segments p xs).length = xs.countP p + 1
-/

namespace HelpQuery

/-! ## Algorithm -/

/-- The runs between the elements that satisfy `p`, empty runs included. -/
def segments {α : Type} (p : α → Bool) : List α → List (List α)
  | [] => [[]]
  | x :: xs =>
    if p x then [] :: segments p xs
    else match segments p xs with
      | [] => [[x]]
      | s :: rest => (x :: s) :: rest

/-! ## Lemmas -/

section

variable {α : Type} (p : α → Bool)

theorem segments_ne_nil (xs : List α) : segments p xs ≠ [] := by
  cases xs with
  | nil => simp [segments]
  | cons x xs =>
    unfold segments
    split
    · simp
    · split <;> simp

theorem segments_append_cons (a : List α) {x : α} (b : List α) (h : p x = true) :
    segments p (a ++ x :: b) = segments p a ++ segments p b := by
  induction a with
  | nil => simp [segments, h]
  | cons y a ih =>
    simp only [List.cons_append, segments, ih]
    split
    · rfl
    · cases hs : segments p a with
      | nil => exact absurd hs (segments_ne_nil p a)
      | cons s rest => rfl

theorem length_segments (xs : List α) : (segments p xs).length = xs.countP p + 1 := by
  induction xs with
  | nil => rfl
  | cons x xs ih =>
    unfold segments
    split
    · next h => simp [h, ih]
    · next h =>
      cases hs : segments p xs with
      | nil => exact absurd hs (segments_ne_nil p xs)
      | cons s rest => simpa [h, hs] using ih

/-- Nothing but separators is lost. -/
theorem flatten_segments (xs : List α) : (segments p xs).flatten = xs.filter (! p ·) := by
  induction xs with
  | nil => rfl
  | cons x xs ih =>
    unfold segments
    split
    · next h => simp [h, ih]
    · next h =>
      cases hs : segments p xs with
      | nil => exact absurd hs (segments_ne_nil p xs)
      | cons s rest => simpa [h, hs] using ih

end

end HelpQuery
