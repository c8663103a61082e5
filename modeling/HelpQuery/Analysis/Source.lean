import HelpQuery.Analysis.Pipeline
import HelpQuery.Number.Power

/-!
# Sources of terms

A source hands out the terms of one text after another, one at a time.  The current term stands in a
slot that whoever reads the source may change before going on, and the source goes on from what it
then finds there.  The stages of a pipeline are such readers of the stage before, and sources again:

    runs, lower case, short words, no stop words, stems, positions without gaps
-/

namespace HelpQuery

/-- What a source holds while it is read: its own state, and the slot of the current term. -/
structure Reading (σ : Type) where
  state : σ
  slot : Occurrence

/-- A source of terms at their places. -/
structure TermSource (σ : Type) where
  /-- Begins with a text, whatever is left of the reading of another. -/
  start : String → Reading σ → Reading σ
  /-- Whether there is one more term, which then stands in the slot. -/
  next : Reading σ → Bool × Reading σ

/-- A term under another number. -/
def Occurrence.numbered (o : Occurrence) (i : Nat) : Occurrence := { o with position := i }

namespace TermSource

variable {σ : Type}

/-- What a source hands out in `n` steps at most to a reader who changes each term in the slot, the
first as the one with number `i`, before going on. -/
def handOut (s : TermSource σ) (change : Nat → Occurrence → Occurrence) :
    Nat → Nat → Reading σ → List Occurrence
  | 0, _, _ => []
  | n + 1, i, r =>
    match s.next r with
    | (false, _) => []
    | (true, after) =>
      after.slot :: s.handOut change n (i + 1) ⟨after.state, change i after.slot⟩

/-- The next terms, `n` at most, for a reader who leaves the slot alone. -/
def read (s : TermSource σ) (n : Nat) (r : Reading σ) : List Occurrence :=
  s.handOut (fun _ o => o) n 0 r

/-- Numbers the terms that come, from zero in every text. -/
def contiguous (s : TermSource σ) : TermSource (σ × Nat) where
  start text r :=
    let begun := s.start text ⟨r.state.1, r.slot⟩
    ⟨(begun.state, 0), begun.slot⟩
  next r :=
    let (state, i) := r.state
    match s.next ⟨state, r.slot⟩ with
    | (false, after) => (false, ⟨(after.state, i), after.slot⟩)
    | (true, after) => (true, ⟨(after.state, i + 1), after.slot.numbered i⟩)

/-- Numbers grow from the one that is due. -/
theorem handOut_contiguous_increasing (s : TermSource σ) (n i : Nat) (r : Reading (σ × Nat)) :
    (∀ o ∈ s.contiguous.handOut (fun _ o => o) n i r, r.state.2 ≤ o.position) ∧
      (s.contiguous.handOut (fun _ o => o) n i r).Pairwise (·.position < ·.position) := by
  induction n generalizing i r with
  | zero => exact ⟨nofun, .nil⟩
  | succ n ih =>
    obtain ⟨⟨state, due⟩, slot⟩ := r
    rw [handOut]
    simp only [contiguous]
    rcases s.next ⟨state, slot⟩ with ⟨_ | _, after⟩
    · exact ⟨nofun, .nil⟩
    · obtain ⟨hdue, hpairwise⟩ := ih (i + 1) ⟨(after.state, due + 1), after.slot.numbered due⟩
      refine ⟨List.forall_mem_cons.2 ⟨Nat.le_refl due, fun o ho => ?_⟩,
        List.pairwise_cons.2 ⟨hdue, hpairwise⟩⟩
      have hlater := hdue o ho
      simp only at hlater ⊢
      omega

end TermSource

/-- A source that is over some time, whatever is done to its slot. -/
structure FiniteSource (σ : Type) extends TermSource σ where
  /-- How many terms are still to come, at most. -/
  ahead : σ → Nat
  ahead_next : ∀ r, (next r).1 = true → ahead (next r).2.state < ahead r.state

namespace FiniteSource

variable {σ : Type}

/-- Changes the text of each term. -/
def mapTerm (f : String → String) (s : FiniteSource σ) : FiniteSource σ where
  start := s.start
  next r :=
    match s.next r with
    | (false, after) => (false, after)
    | (true, after) =>
      (true, ⟨after.state, { after.slot with term := f after.slot.term }⟩)
  ahead := s.ahead
  ahead_next r h := by
    have hnext := s.ahead_next r
    revert h hnext
    rcases s.next r with ⟨_ | _, after⟩
    · exact fun h _ => absurd h Bool.false_ne_true
    · exact fun _ hnext => hnext rfl

/-- Goes on until a term is to be kept, or there is none. -/
def nextKept (keep : String → Bool) (s : FiniteSource σ) (r : Reading σ) : Bool × Reading σ :=
  match _h : s.next r with
  | (false, after) => (false, after)
  | (true, after) => if keep after.slot.term then (true, after) else nextKept keep s after
termination_by s.ahead r.state
decreasing_by
  have hnext := s.ahead_next r
  rw [_h] at hnext
  exact hnext rfl

theorem ahead_nextKept (keep : String → Bool) (s : FiniteSource σ) (r : Reading σ)
    (h : (s.nextKept keep r).1 = true) :
    s.ahead (s.nextKept keep r).2.state < s.ahead r.state := by
  fun_induction nextKept keep s r with
  | case1 r after hnext => cases h
  | case2 r after hnext hkeep =>
    have hlt := s.ahead_next r
    rw [hnext] at hlt
    exact hlt rfl
  | case3 r after hnext hleft ih =>
    have hlt := s.ahead_next r
    rw [hnext] at hlt
    exact Nat.lt_trans (ih h) (hlt rfl)

/-- Leaves terms out. -/
def filterTerm (keep : String → Bool) (s : FiniteSource σ) : FiniteSource σ where
  start := s.start
  next := s.nextKept keep
  ahead := s.ahead
  ahead_next := s.ahead_nextKept keep

/-- The number of positions: the one behind the last is the first again. -/
def positionCount : Nat := twoPow 64

/-- The alphanumeric runs of a text.  The number of a run is the one behind that in the slot, which
starts with the last. -/
def ofRuns : FiniteSource (List Run) where
  start text _ := ⟨runs text, ⟨"", positionCount - 1, 0, 0⟩⟩
  next r :=
    let position := (r.slot.position + 1) % positionCount
    match r.state with
    | [] => (false, ⟨[], { r.slot with term := "", position }⟩)
    | run :: rest =>
      (true, ⟨rest, ⟨String.ofList run.chars, position, run.start, run.stop⟩⟩)
  ahead := List.length
  ahead_next r h := by
    obtain ⟨_ | ⟨run, rest⟩, slot⟩ := r
    · cases h
    · exact Nat.lt_succ_self _

end FiniteSource

namespace Pipeline

/-- The stages of a pipeline up to the stems, one behind the other. -/
def stems (p : Pipeline) : FiniteSource (List Run) :=
  FiniteSource.ofRuns
    |>.mapTerm (fun word => String.ofList (Text.lower word.toList))
    |>.filterTerm (fun word => byteLength word.toList < longWord)
    |>.filterTerm (fun word => !p.isStopWord word)
    |>.mapTerm p.stem

/-- All stages of a pipeline. -/
def source (p : Pipeline) : TermSource (List Run × Nat) := p.stems.contiguous

/-- What is read of a text to the end; it has no more terms than runs. -/
def tokens (p : Pipeline) (text : String) : List Occurrence :=
  p.source.read (runs text).length (p.source.start text ⟨([], 0), ⟨"", 0, 0, 0⟩⟩)

theorem pairwise_position_tokens (p : Pipeline) (text : String) :
    (p.tokens text).Pairwise (·.position < ·.position) :=
  (p.stems.handOut_contiguous_increasing _ 0 _).2

end Pipeline

end HelpQuery
