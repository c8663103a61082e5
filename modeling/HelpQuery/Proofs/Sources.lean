import HelpQuery.Analysis.Source
import HelpQuery.Proofs.Stages

/-!
# Reading sources

The last stage of a pipeline numbers the terms in the slot of the stage before, which goes on from
there.  Whatever that stage is, its terms come through with their texts and places.  If it does not
look at the numbers, they are the terms it hands out on its own; the stages of a pipeline do not even
look at the slot, so what they hand out is known beforehand.

    s.contiguous.read n … = numberedFrom 0 (what s hands out while its terms are numbered)
    p.source.read n (p.source.start text left) = (p.occurrences text).take n
-/

namespace HelpQuery

/-! ## Numbers -/

/-- A term and the byte offsets of its ends. -/
def Occurrence.unnumbered (o : Occurrence) : String × Nat × Nat := (o.term, o.start, o.stop)

/-- Terms with the numbers from `i` on. -/
def numberedFrom (i : Nat) (places : List (String × Nat × Nat)) : List Occurrence :=
  (places.zipIdx i).map fun ((term, start, stop), j) => ⟨term, j, start, stop⟩

theorem numberedFrom_cons (i : Nat) (o : Occurrence) (places : List (String × Nat × Nat)) :
    numberedFrom i (o.unnumbered :: places) = o.numbered i :: numberedFrom (i + 1) places := rfl

theorem map_unnumbered_numberedFrom (i : Nat) (places : List (String × Nat × Nat)) :
    (numberedFrom i places).map Occurrence.unnumbered = places := by
  have hid : ((fun o => o.unnumbered) ∘ fun (x : (String × Nat × Nat) × Nat) =>
      (⟨x.1.1, x.2, x.1.2.1, x.1.2.2⟩ : Occurrence)) = Prod.fst := rfl
  rw [numberedFrom, List.map_map]
  exact (congrArg (List.map · _) hid).trans (List.zipIdx_map_fst i places)

theorem map_position_numberedFrom (i : Nat) (places : List (String × Nat × Nat)) :
    (numberedFrom i places).map Occurrence.position = List.range' i places.length := by
  rw [numberedFrom, List.map_map]
  exact List.zipIdx_map_snd i places

theorem take_numberedFrom (i n : Nat) (places : List (String × Nat × Nat)) :
    numberedFrom i (places.take n) = (numberedFrom i places).take n := by
  induction places generalizing i n with
  | nil => simp [numberedFrom]
  | cons place places ih =>
    cases n with
    | zero => rfl
    | succ n => exact congrArg (List.cons _) (ih (i + 1) n)

/-- Whether two readings are the same but for the number in the slot. -/
def Reading.SameButNumber {σ : Type} (a b : Reading σ) : Prop :=
  a.state = b.state ∧ a.slot.unnumbered = b.slot.unnumbered

namespace TermSource

variable {σ : Type} {s : TermSource σ} {change change' : Nat → Occurrence → Occurrence}

/-! ## Steps -/

theorem next_cases (s : TermSource σ) (r : Reading σ) :
    (s.next r).1 = false ∨ ∃ after, s.next r = (true, after) := by
  rcases hnext : s.next r with ⟨_ | _, after⟩
  · exact Or.inl rfl
  · exact Or.inr ⟨after, rfl⟩

theorem handOut_over {r : Reading σ} (h : (s.next r).1 = false) (n i : Nat) :
    s.handOut change n i r = [] := by
  cases n with
  | zero => rfl
  | succ n =>
    unfold handOut
    split
    · rfl
    · next hnext => rw [hnext] at h; cases h

theorem handOut_next {r after : Reading σ} (h : s.next r = (true, after)) (n i : Nat) :
    s.handOut change (n + 1) i r =
      after.slot :: s.handOut change n (i + 1) ⟨after.state, change i after.slot⟩ := by
  rw [handOut, h]

/-! ## Numbering -/

theorem next_contiguous_over {state : σ} {slot : Occurrence}
    (h : (s.next ⟨state, slot⟩).1 = false) (i : Nat) :
    (s.contiguous.next ⟨(state, i), slot⟩).1 = false := by
  simp only [contiguous]
  split
  · rfl
  · next hnext => rw [hnext] at h; cases h

theorem next_contiguous {state : σ} {slot : Occurrence} {after : Reading σ}
    (h : s.next ⟨state, slot⟩ = (true, after)) (i : Nat) :
    s.contiguous.next ⟨(state, i), slot⟩ =
      (true, ⟨(after.state, i + 1), after.slot.numbered i⟩) := by
  simp only [contiguous, h]

/-- The terms of the source come through one by one, numbered in its slot before it goes on. -/
theorem handOut_contiguous (s : TermSource σ) (n i j : Nat) (state : σ) (slot : Occurrence) :
    s.contiguous.handOut (fun _ o => o) n j ⟨(state, i), slot⟩ =
      numberedFrom i ((s.handOut (fun k o => o.numbered k) n i ⟨state, slot⟩).map
        Occurrence.unnumbered) := by
  induction n generalizing i j state slot with
  | zero => rfl
  | succ n ih =>
    rcases s.next_cases ⟨state, slot⟩ with h | ⟨after, h⟩
    · rw [handOut_over h, handOut_over (next_contiguous_over h i)]
      rfl
    · -- both read on from the same slot: that of the source, with the number in it
      rw [handOut_next h, handOut_next (next_contiguous h i), List.map_cons, numberedFrom_cons, ih]

theorem read_contiguous (s : TermSource σ) (text : String) (left : Reading (σ × Nat)) (n : Nat) :
    s.contiguous.read n (s.contiguous.start text left) =
      numberedFrom 0 ((s.handOut (fun i o => o.numbered i) n 0
        (s.start text ⟨left.state.1, left.slot⟩)).map Occurrence.unnumbered) :=
  s.handOut_contiguous n 0 0 _ _

/-! ## Sources that do not look at numbers -/

/-- Whether a source goes on in the same way whatever number stands in the slot. -/
def IgnoresNumbers (s : TermSource σ) : Prop :=
  ∀ a b : Reading σ, a.SameButNumber b →
    (s.next a).1 = (s.next b).1 ∧ (s.next a).2.SameButNumber (s.next b).2

/-- Changes of numbers do not change what such a source hands out. -/
theorem IgnoresNumbers.handOut_eq (hs : s.IgnoresNumbers)
    (hchange : ∀ i o, (change i o).unnumbered = o.unnumbered)
    (hchange' : ∀ i o, (change' i o).unnumbered = o.unnumbered) (n i j : Nat) {a b : Reading σ}
    (h : a.SameButNumber b) :
    (s.handOut change n i a).map Occurrence.unnumbered =
      (s.handOut change' n j b).map Occurrence.unnumbered := by
  induction n generalizing i j a b with
  | zero => rfl
  | succ n ih =>
    obtain ⟨hfound, hafter⟩ := hs a b h
    rcases s.next_cases a with ha | ⟨after, ha⟩
    · rw [handOut_over ha, handOut_over (hfound ▸ ha)]
    · obtain ⟨after', hb⟩ : ∃ after', s.next b = (true, after') := by
        rcases s.next_cases b with hb | hb
        · rw [ha, hb] at hfound
          cases hfound
        · exact hb
      rw [ha, hb] at hafter
      rw [handOut_next ha, handOut_next hb, List.map_cons, List.map_cons, hafter.2]
      refine congrArg _ (ih (i + 1) (j + 1) ⟨hafter.1, ?_⟩)
      rw [hchange, hchange', hafter.2]

/-- Numbered in the slot or not, the terms of such a source are the same. -/
theorem IgnoresNumbers.handOut_numbered (hs : s.IgnoresNumbers) (n : Nat) (r : Reading σ) :
    (s.handOut (fun i o => o.numbered i) n 0 r).map Occurrence.unnumbered =
      (s.read n r).map Occurrence.unnumbered := by
  have hnumbered : ∀ (i : Nat) (o : Occurrence), (o.numbered i).unnumbered = o.unnumbered :=
    fun _ _ => rfl
  exact hs.handOut_eq hnumbered (fun _ _ => rfl) n 0 0 ⟨rfl, rfl⟩

/-! ## Sources that do not look at the slot -/

/-- Whatever is left in the slot, the source hands out these terms at their places and is over. -/
def Gives (s : TermSource σ) : σ → List (String × Nat × Nat) → Prop
  | state, [] => ∀ slot, (s.next ⟨state, slot⟩).1 = false
  | state, place :: places => ∀ slot, ∃ after, s.next ⟨state, slot⟩ = (true, after) ∧
      after.slot.unnumbered = place ∧ s.Gives after.state places

theorem Gives.handOut_eq {state : σ} {places : List (String × Nat × Nat)}
    (h : s.Gives state places) (change : Nat → Occurrence → Occurrence) (n i : Nat)
    (slot : Occurrence) :
    (s.handOut change n i ⟨state, slot⟩).map Occurrence.unnumbered = places.take n := by
  induction places generalizing state n i slot with
  | nil => rw [handOut_over (h slot), List.take_nil, List.map_nil]
  | cons place places ih =>
    cases n with
    | zero => rfl
    | succ n =>
      obtain ⟨after, hnext, rfl, hrest⟩ := h slot
      rw [handOut_next hnext, List.map_cons, ih hrest, List.take_succ_cons]

/-- Where the next step is that of another reading, the source gives what it gives there. -/
theorem gives_of_next_eq {state : σ} {places : List (String × Nat × Nat)}
    (h : ∀ slot, ∃ r : Reading σ, s.next ⟨state, slot⟩ = s.next r ∧ s.Gives r.state places) :
    s.Gives state places := by
  cases places with
  | nil =>
    intro slot
    obtain ⟨r, hnext, hr⟩ := h slot
    rw [hnext]
    exact hr r.slot
  | cons place places =>
    intro slot
    obtain ⟨r, hnext, hr⟩ := h slot
    rw [hnext]
    exact hr r.slot

end TermSource

/-! ## Stages -/

namespace FiniteSource

variable {σ : Type} {s : FiniteSource σ} {keep : String → Bool} {r after : Reading σ}

theorem gives_ofRuns (rs : List Run) :
    ofRuns.Gives rs (rs.map fun r => (String.ofList r.chars, r.start, r.stop)) := by
  induction rs with
  | nil => exact fun slot => rfl
  | cons r rs ih => exact fun slot => ⟨_, rfl, rfl, ih⟩

theorem gives_mapTerm (f : String → String) {state : σ} {places : List (String × Nat × Nat)}
    (h : s.Gives state places) :
    (s.mapTerm f).Gives state (places.map fun (term, ends) => (f term, ends)) := by
  induction places generalizing state with
  | nil =>
    intro slot
    have hover := h slot
    simp only [mapTerm]
    split
    · rfl
    · next hnext => rw [hnext] at hover; cases hover
  | cons place places ih =>
    intro slot
    obtain ⟨after, hnext, rfl, hrest⟩ := h slot
    exact ⟨⟨after.state, { after.slot with term := f after.slot.term }⟩,
      by simp only [mapTerm, hnext], rfl, ih hrest⟩

theorem nextKept_eq (keep : String → Bool) (s : FiniteSource σ) (r : Reading σ) :
    s.nextKept keep r = match s.next r with
      | (false, after) => (false, after)
      | (true, after) => if keep after.slot.term then (true, after) else s.nextKept keep after := by
  rw [nextKept]
  split
  · next hnext => rw [hnext]
  · next hnext => rw [hnext]

theorem nextKept_over (h : (s.next r).1 = false) : (s.nextKept keep r).1 = false := by
  rw [nextKept_eq]
  split
  · rfl
  · next hnext => rw [hnext] at h; cases h

theorem nextKept_kept (h : s.next r = (true, after)) (hkeep : keep after.slot.term = true) :
    s.nextKept keep r = (true, after) := by
  rw [nextKept_eq, h]
  exact if_pos hkeep

theorem nextKept_left (h : s.next r = (true, after)) (hleft : keep after.slot.term = false) :
    s.nextKept keep r = s.nextKept keep after := by
  rw [nextKept_eq, h]
  exact if_neg (ne_true_of_eq_false hleft)

theorem gives_filterTerm (keep : String → Bool) {state : σ} {places : List (String × Nat × Nat)}
    (h : s.Gives state places) :
    (s.filterTerm keep).Gives state (places.filter fun place => keep place.1) := by
  induction places generalizing state with
  | nil => exact fun slot => nextKept_over (h slot)
  | cons place places ih =>
    rw [List.filter_cons]
    split
    · next hkeep =>
      intro slot
      obtain ⟨after, hnext, rfl, hrest⟩ := h slot
      exact ⟨after, nextKept_kept hnext hkeep, rfl, ih hrest⟩
    · next hleft =>
      -- the term is passed over, so the step is that of the source behind it
      refine TermSource.gives_of_next_eq fun slot => ?_
      obtain ⟨after, hnext, rfl, hrest⟩ := h slot
      exact ⟨after, nextKept_left hnext (eq_false_of_ne_true hleft), ih hrest⟩

end FiniteSource

end HelpQuery
