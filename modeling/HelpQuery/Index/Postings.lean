import HelpQuery.Analysis.Source

/-!
# Postings

An index keeps the terms of a field of a document with their positions.  A phrase is found where its
terms stand at one position after the other:

    ps.hasFrom position [first, second] = (first at position && second at position + 1)

Several texts of a field follow each other, and between two of them one position is left free, so no
phrase goes on from one text to the next.
-/

namespace HelpQuery

/-- A term at a position. -/
structure Posting where
  term : String
  position : Nat
  deriving DecidableEq, Repr

namespace Posting

/-- The term `n` positions later. -/
def shift (n : Nat) (p : Posting) : Posting := { p with position := n + p.position }

/-- Whether there is no gap between a term and the next one. -/
def before (p next : Posting) : Bool := next.position == p.position + 1

end Posting

/-- The terms of a field of a document, by their positions. -/
structure Postings where
  toList : List Posting
  increasing : toList.Pairwise (·.position < ·.position)
  deriving DecidableEq, Repr

namespace Postings

def empty : Postings := ⟨[], .nil⟩

/-- The terms in order, without their positions. -/
def terms (ps : Postings) : List String := ps.toList.map Posting.term

/-! ## Phrases -/

/-- Whether the terms of a phrase stand at a position and the next ones. -/
def hasFrom (ps : Postings) (position : Nat) : List String → Bool
  | [] => true
  | term :: rest => ps.toList.contains ⟨term, position⟩ && ps.hasFrom (position + 1) rest

/-- Whether there is a phrase. -/
def hasPhrase (ps : Postings) (terms : List String) : Bool :=
  ps.toList.any fun p => ps.hasFrom p.position terms

/-- The number of positions a phrase starts at. -/
def phraseCount (ps : Postings) (terms : List String) : Nat :=
  ps.toList.countP fun p => ps.hasFrom p.position terms

/-- The passages, which end at the gaps between positions. -/
def passages (ps : Postings) : List (List String) :=
  (ps.toList.splitBy Posting.before).map (·.map Posting.term)

/-! ## Texts of a field -/

/-- The first position behind all terms. -/
def stop (ps : Postings) : Nat := ((ps.toList.map (·.position + 1)).max?).getD 0

theorem position_lt_stop {ps : Postings} {p : Posting} (h : p ∈ ps.toList) :
    p.position < ps.stop :=
  List.le_max?_getD_of_mem (List.mem_map_of_mem h)

/-- The postings of texts one after the other, from a position on. -/
def concatFrom (start : Nat) : List Postings → List Posting
  | [] => []
  | ps :: rest => ps.toList.map (.shift start) ++ concatFrom (start + ps.stop + 1) rest

theorem start_le_position {start : Nat} {texts : List Postings} {p : Posting}
    (h : p ∈ concatFrom start texts) : start ≤ p.position := by
  induction texts generalizing start with
  | nil => cases h
  | cons ps rest ih =>
    rcases List.mem_append.1 h with h | h
    · obtain ⟨q, -, rfl⟩ := List.mem_map.1 h
      exact Nat.le_add_right ..
    · have hrest := ih h
      omega

theorem pairwise_concatFrom (start : Nat) (texts : List Postings) :
    (concatFrom start texts).Pairwise (·.position < ·.position) := by
  induction texts generalizing start with
  | nil => exact .nil
  | cons ps rest ih =>
    refine List.pairwise_append.2 ⟨?_, ih _, fun p hp q hq => ?_⟩
    · refine List.pairwise_map.2 (ps.increasing.imp fun hlt => ?_)
      exact Nat.add_lt_add_left hlt start
    · obtain ⟨own, hown, rfl⟩ := List.mem_map.1 hp
      have hbehind := start_le_position hq
      have hlt := position_lt_stop hown
      simp only [Posting.shift]
      omega

/-- The postings of all texts of a field. -/
def concat (texts : List Postings) : Postings := ⟨concatFrom 0 texts, pairwise_concatFrom 0 texts⟩

/-! ## Postings of a text -/

/-- A whole text as one term. -/
def whole (text : String) : Postings := ⟨[⟨text, 0⟩], List.pairwise_singleton ..⟩

/-- The runs of a text in lower case, without any other stage.  Over-long runs are left out, but
their positions are not given to others. -/
def plain (text : String) : Postings where
  toList := ((runs text).zipIdx.filter fun (r, _) => byteLength r.chars < Pipeline.longWord).map
    fun (r, i) => ⟨String.ofList (Text.lower r.chars), i⟩
  increasing := by
    refine List.pairwise_map.2 (List.Pairwise.filter _ ?_)
    have hrange : ((runs text).zipIdx.map Prod.snd).Pairwise (· < ·) := by
      rw [List.zipIdx_map_snd]
      exact List.pairwise_lt_range'
    exact List.pairwise_map.1 hrange

end Postings

/-- The terms of a text at the positions that a pipeline gives them. -/
def Pipeline.postings (p : Pipeline) (text : String) : Postings where
  toList := (p.tokens text).map fun o => ⟨o.term, o.position⟩
  increasing := List.pairwise_map.2 (p.pairwise_position_tokens text)

end HelpQuery
