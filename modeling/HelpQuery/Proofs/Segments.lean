import HelpQuery.Text.Blank
import Mathlib.Data.List.Basic

/-!
# Cuts of lists

A list holds no separator or is cut by its first one, which gives an induction for all that is
defined by segments.  The segments are the stretches between separators, and a map that goes
through cuts is settled by what it does to them:

    f (a ++ x :: b) = f a ++ f b for every separator x  →  (segments p xs).flatMap f = f xs
    …, f [] = []                                        →  (words text).flatMap f = f text
-/

namespace HelpQuery

section

variable {α β : Type} (p : α → Bool)

/-! ## Induction over cuts -/

theorem segments_of_free {xs : List α} (h : ∀ x ∈ xs, p x = false) : segments p xs = [xs] := by
  induction xs with
  | nil => rfl
  | cons x xs ih =>
    have hx : p x = false := h x (by simp)
    have hxs : segments p xs = [xs] := ih fun y hy => h y (by simp [hy])
    simp [segments, hx, hxs]

/-- The first separator ends the first segment. -/
theorem segments_cut {a : List α} {x : α} (b : List α) (ha : ∀ y ∈ a, p y = false)
    (hx : p x = true) : segments p (a ++ x :: b) = a :: segments p b := by
  rw [segments_append_cons p a b hx, segments_of_free p ha]
  rfl

/-- A list has no separator, or a first one. -/
@[elab_as_elim]
theorem segments_induction {motive : List α → Prop}
    (free : ∀ a, (∀ y ∈ a, p y = false) → motive a)
    (cut : ∀ a x b, (∀ y ∈ a, p y = false) → p x = true → motive b → motive (a ++ x :: b))
    (xs : List α) : motive xs := by
  obtain ⟨n, hn⟩ : ∃ n, xs.countP p = n := ⟨_, rfl⟩
  induction n generalizing xs with
  | zero =>
    refine free xs fun y hy => ?_
    simpa using List.countP_eq_zero.1 hn y hy
  | succ n ih =>
    have hpos : 0 < xs.countP p := by omega
    obtain ⟨w, hw, hpw⟩ := List.countP_pos_iff.1 hpos
    obtain ⟨x, a, b, ha, hx, rfl, -⟩ := List.exists_of_eraseP hw hpw
    have ha' : ∀ y ∈ a, p y = false := fun y hy => by simpa using ha y hy
    refine cut a x b ha' hx (ih b ?_)
    have hzero : a.countP p = 0 := List.countP_eq_zero.2 fun y hy => by simp [ha' y hy]
    simp [hx] at hn
    omega

/-! ## Where segments lie -/

/-- A stretch at the start of a list, bounded by a separator or the end, is the first segment. -/
theorem stretch_at_start {a b s after : List α} {x : α} (ha : ∀ y ∈ a, p y = false)
    (hx : p x = true) (hs : ∀ y ∈ s, p y = false) (hf : ∀ y ∈ after.head?, p y = true)
    (h : a ++ x :: b = s ++ after) : s = a := by
  rcases List.append_eq_append_iff.1 h with ⟨_ | ⟨z, t⟩, h1, h2⟩ | ⟨_ | ⟨z, t⟩, h1, h2⟩
  · simpa using h1
  · have hz : x = z := (List.cons.inj h2).1
    have hfree := hs z (by simp [h1])
    rw [← hz, hx] at hfree
    cases hfree
  · simpa using h1.symm
  · have hfree := ha z (by simp [h1])
    rw [hf z (by simp [h2])] at hfree
    cases hfree

/-- A separator stands behind the first one or is the first one. -/
theorem stretch_behind {a b c rest : List α} {x y : α} (ha : ∀ z ∈ a, p z = false)
    (hy : p y = true) (h : a ++ x :: b = c ++ [y] ++ rest) :
    ∃ t, c ++ [y] = a ++ x :: t ∧ b = t ++ rest := by
  have hya : y ∉ a := fun hm => by simp [ha y hm] at hy
  rcases List.append_eq_append_iff.1 h with ⟨_ | ⟨z, t⟩, h1, h2⟩ | ⟨t, h1, -⟩
  · have : y ∈ a := by
      rw [← List.append_nil a, ← h1]
      simp
    exact absurd this hya
  · obtain ⟨rfl, rfl⟩ := List.cons.inj h2
    exact ⟨t, h1, rfl⟩
  · exact absurd (by simp [h1]) hya

/-- What ends in a separator does so from its first one on. -/
theorem forall_getLast?_cut {a t : List α} {x : α} (hx : p x = true) :
    (∀ y ∈ (a ++ x :: t).getLast?, p y = true) ↔ ∀ y ∈ t.getLast?, p y = true := by
  rw [List.getLast?_append, List.getLast?_cons]
  cases t.getLast? <;> simp [hx]

/-- The segments are the stretches without separators that a separator or an end of the list
bounds on each side. -/
theorem mem_segments_iff (xs s : List α) :
    s ∈ segments p xs ↔
      ∃ before after, xs = before ++ s ++ after ∧ (∀ y ∈ s, p y = false) ∧
        (∀ y ∈ before.getLast?, p y = true) ∧ ∀ y ∈ after.head?, p y = true := by
  induction xs using segments_induction p with
  | free a ha =>
    rw [segments_of_free p ha, List.mem_singleton]
    constructor
    · rintro rfl
      exact ⟨[], [], by simp, ha, by simp, by simp⟩
    · rintro ⟨before, after, rfl, -, hb, hf⟩
      have hbefore : before = [] := by
        cases hl : before.getLast? with
        | none => simpa using hl
        | some y =>
          have hy := ha y (by simp [List.mem_of_getLast? hl])
          simp [hb y hl] at hy
      have hafter : after = [] := by
        cases after with
        | nil => rfl
        | cons y after =>
          have hy := ha y (by simp)
          simp [hf y rfl] at hy
      simp [hbefore, hafter]
  | cut a x b ha hx ih =>
    rw [segments_cut p b ha hx, List.mem_cons, ih]
    constructor
    · rintro (rfl | ⟨before, after, rfl, hs, hb, hf⟩)
      · exact ⟨[], x :: b, by simp, ha, by simp, by simpa using hx⟩
      · exact ⟨a ++ x :: before, after, by simp, hs, (forall_getLast?_cut p hx).2 hb, hf⟩
    · rintro ⟨before, after, h, hs, hb, hf⟩
      rcases List.eq_nil_or_concat' before with rfl | ⟨c, y, rfl⟩
      · left
        exact stretch_at_start p ha hx hs hf (by simpa using h)
      · right
        have hy : p y = true := hb y (by simp)
        rw [List.append_assoc] at h
        obtain ⟨t, h1, rfl⟩ := stretch_behind p ha hy h
        rw [h1, forall_getLast?_cut p hx] at hb
        exact ⟨t, after, by simp, hs, hb, hf⟩

/-! ## Equal lists -/

section

variable {a a' b b' : List α} {x : α}

/-- Equal lists are the same before and behind the first of an element. -/
theorem first_inj (ha : x ∉ a) (ha' : x ∉ a') (h : a ++ x :: b = a' ++ x :: b') :
    a = a' ∧ b = b' := by
  induction a generalizing a' with
  | nil =>
    cases a' with
    | nil => exact ⟨rfl, (List.cons.inj h).2⟩
    | cons y a' => exact absurd (by simp [(List.cons.inj h).1]) ha'
  | cons y a ih =>
    cases a' with
    | nil => exact absurd (by simp [(List.cons.inj h).1]) ha
    | cons z a' =>
      obtain ⟨hyz, hrest⟩ := List.cons.inj h
      obtain ⟨haa, hbb⟩ := ih (mt (List.mem_cons_of_mem y) ha) (mt (List.mem_cons_of_mem z) ha')
        hrest
      exact ⟨by rw [hyz, haa], hbb⟩

/-- Equal lists are the same before and behind the last of an element. -/
theorem last_inj (hb : x ∉ b) (hb' : x ∉ b') (h : a ++ x :: b = a' ++ x :: b') :
    a = a' ∧ b = b' := by
  have hrev : b.reverse ++ x :: a.reverse = b'.reverse ++ x :: a'.reverse := by
    simpa using congrArg List.reverse h
  obtain ⟨hback, hfront⟩ := first_inj (mt List.mem_reverse.1 hb) (mt List.mem_reverse.1 hb') hrev
  exact ⟨List.reverse_inj.1 hfront, List.reverse_inj.1 hback⟩

end

/-! ## Where two lists meet -/

/-- A stretch without separators only makes the first segment longer. -/
theorem segments_append_of_free {a b first : List α} {rest : List (List α)}
    (ha : ∀ y ∈ a, p y = false) (hb : segments p b = first :: rest) :
    segments p (a ++ b) = (a ++ first) :: rest := by
  induction a with
  | nil => exact hb
  | cons x a ih =>
    obtain ⟨hx, ha⟩ := List.forall_mem_cons.1 ha
    rw [List.cons_append, segments, hx, ih ha]
    rfl

/-- The last segment of one list and the first of another become one, with what stands between the
lists. -/
theorem segments_append_append {a mid b last first : List α} {init rest : List (List α)}
    (ha : segments p a = init ++ [last]) (hmid : ∀ y ∈ mid, p y = false)
    (hb : segments p b = first :: rest) :
    segments p (a ++ mid ++ b) = init ++ (last ++ mid ++ first) :: rest := by
  induction a using segments_induction p generalizing init with
  | free a hfree =>
    rw [segments_of_free p hfree] at ha
    obtain ⟨rfl, rfl⟩ : init = [] ∧ last = a := by
      cases init with
      | nil => exact ⟨rfl, (List.cons.inj ha).1.symm⟩
      | cons s init => simp at ha
    refine segments_append_of_free p (fun y hy => ?_) hb
    rcases List.mem_append.1 hy with hy | hy
    · exact hfree y hy
    · exact hmid y hy
  | cut a x rest' hfree hx ih =>
    rw [segments_cut p rest' hfree hx] at ha
    cases init with
    | nil => exact absurd (List.cons.inj ha).2 (segments_ne_nil p rest')
    | cons s init =>
      obtain ⟨rfl, hrest⟩ := List.cons.inj ha
      rw [List.append_assoc, List.append_assoc, List.cons_append, segments_cut p _ hfree hx,
        ← List.append_assoc, ih hrest]
      rfl

/-- The last segment stands behind the last separator, if there is one. -/
theorem exists_append_last {xs last : List α} {init : List (List α)}
    (h : segments p xs = init ++ [last]) :
    ∃ front, xs = front ++ last ∧ ∀ y ∈ front.getLast?, p y = true := by
  induction xs using segments_induction p generalizing init with
  | free a ha =>
    rw [segments_of_free p ha] at h
    cases init with
    | nil => exact ⟨[], (List.cons.inj h).1, by simp⟩
    | cons s init => simp at h
  | cut a x b ha hx ih =>
    rw [segments_cut p b ha hx] at h
    cases init with
    | nil => exact absurd (List.cons.inj h).2 (segments_ne_nil p b)
    | cons s init =>
      obtain ⟨front, rfl, hfront⟩ := ih (List.cons.inj h).2
      exact ⟨a ++ x :: front, by simp, (forall_getLast?_cut p hx).2 hfront⟩

/-! ## Maps that go through cuts -/

/-- A map that goes through cuts is settled by what it does to segments. -/
theorem flatMap_segments {f : List α → List β}
    (hf : ∀ a x b, p x = true → f (a ++ x :: b) = f a ++ f b) (xs : List α) :
    (segments p xs).flatMap f = f xs := by
  induction xs using segments_induction p with
  | free a ha => simp [segments_of_free p ha]
  | cut a x b ha hx ih => rw [segments_cut p b ha hx, List.flatMap_cons, ih, hf a x b hx]

end

namespace Text

theorem of_mem_words {text w : List Char} (h : w ∈ words text) :
    w ≠ [] ∧ ∀ c ∈ w, c ∈ text ∧ isBlank c = false := by
  obtain ⟨hw, hne⟩ := List.mem_filter.1 h
  obtain ⟨before, after, rfl, hfree, -⟩ := (mem_segments_iff isBlank text w).1 hw
  exact ⟨by simpa using hne, fun c hc => ⟨by simp [hc], hfree c hc⟩⟩

theorem words_of_free {text : List Char} (hne : text ≠ [])
    (h : ∀ c ∈ text, isBlank c = false) : words text = [text] := by
  rw [words, segments_of_free _ h]
  simp [hne]

/-- A map that goes through blanks and makes nothing of nothing is settled by what it does to
words. -/
theorem flatMap_words {β : Type} {f : List Char → List β} (hnil : f [] = [])
    (hf : ∀ a c b, isBlank c = true → f (a ++ c :: b) = f a ++ f b) (text : List Char) :
    (words text).flatMap f = f text := by
  rw [← flatMap_segments isBlank hf text, words]
  induction segments isBlank text with
  | nil => rfl
  | cons s rest ih =>
    by_cases hs : s = []
    · simpa [hs, hnil] using ih
    · simpa [hs] using ih

end Text

end HelpQuery
