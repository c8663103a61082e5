import HelpQuery.Index.Pattern
import Std.Data.HashSet

/-!
# Automata of patterns

The engine compiles a regular expression to a program and this to a deterministic automaton over
bytes.  It refuses programs of more than ten mebibytes and automata of more than a thousand states.

A place is a byte sequence of one of the elements, with the bytes
of it that are still owed.  A state is the list of the places that can be reached, in the order in
which they are reached; so two places count as two even if the same bytes lead on from both.
-/

namespace HelpQuery

/-! ## Bytes of characters -/

/-- Bytes from a first to a last one. -/
structure ByteRange where
  first : Nat
  last : Nat
  deriving DecidableEq, Hashable, Repr

namespace ByteRange

def has (r : ByteRange) (byte : Nat) : Bool := r.first ≤ byte && byte ≤ r.last

/-- The bytes that go on with a character that has begun. -/
def continuation : ByteRange := ⟨0x80, 0xBF⟩

/-- The byte sequences of all characters but the line feed. -/
def anyChar : List (List ByteRange) :=
  [[⟨0x00, 0x09⟩], [⟨0x0B, 0x7F⟩], [⟨0xC2, 0xDF⟩, continuation],
   [⟨0xE0, 0xE0⟩, ⟨0xA0, 0xBF⟩, continuation], [⟨0xE1, 0xEC⟩, continuation, continuation],
   [⟨0xED, 0xED⟩, ⟨0x80, 0x9F⟩, continuation], [⟨0xEE, 0xEF⟩, continuation, continuation],
   [⟨0xF0, 0xF0⟩, ⟨0x90, 0xBF⟩, continuation, continuation],
   [⟨0xF1, 0xF3⟩, continuation, continuation, continuation],
   [⟨0xF4, 0xF4⟩, ⟨0x80, 0x8F⟩, continuation, continuation]]

/-- The bytes of one character. -/
def ofChar (c : Char) : List ByteRange :=
  (String.singleton c).toUTF8.toList.map fun b => ⟨b.toNat, b.toNat⟩

end ByteRange

/-! ## Programs -/

/-- The number of instructions of an element: one for each byte of a sequence, and a branch and a
jump for each choice between sequences and for each run. -/
def RegexItem.instructions : RegexItem → Nat
  | .literal c => (ByteRange.ofChar c).length
  | .anyChar => ByteRange.anyChar.foldl (fun n bytes => n + bytes.length + 2) 0 - 2
  | .anyRun => ByteRange.anyChar.foldl (fun n bytes => n + bytes.length + 2) 0

/-- The greatest number of instructions that fit, at 24 bytes each. -/
def instructionLimit : Nat := 10 * 1024 * 1024 / 24

/-- Whether the program of some elements fits. -/
def programFits (items : List RegexItem) : Bool :=
  items.foldl (fun n item => n + item.instructions) 0 ≤ instructionLimit

/-! ## Places -/

/-- A place in a regular expression.  Elements are numbered backwards: the last one has the number
one, and the end the number zero. -/
structure Place where
  element : Nat
  /-- The element that is open once the owed bytes are paid: a run again, or the next one. -/
  next : Nat
  /-- Which of the byte sequences of the element it is. -/
  sequence : Nat
  owed : List ByteRange
  deriving DecidableEq, Hashable, Repr

/-- The places at the start of an element with a number. -/
def RegexItem.places (number : Nat) : RegexItem → List Place
  | .literal c => [⟨number, number - 1, 0, ByteRange.ofChar c⟩]
  | .anyChar => ByteRange.anyChar.zipIdx.map fun (bytes, i) => ⟨number, number - 1, i, bytes⟩
  | .anyRun => ByteRange.anyChar.zipIdx.map fun (bytes, i) => ⟨number, number, i, bytes⟩

/-- An element that is opened, with the places at its start. -/
structure Opening where
  element : Nat
  places : List Place

/-- Elements with their numbers. -/
def numbered (items : List RegexItem) : List (RegexItem × Nat) := (items.reverse.zipIdx 1).reverse

/-- What is opened at each element and at the end, the first element first: the element itself and,
as a run may be empty, all that is opened behind a run. -/
def openings : List (RegexItem × Nat) → List (List Opening)
  | [] => [[⟨0, [⟨0, 0, 0, []⟩]⟩]]
  | (item, number) :: rest =>
    let behind := openings rest
    (⟨number, item.places number⟩ :: if item = .anyRun then behind.headD [] else []) :: behind

/-! ## States -/

/-- The places that can be reached, in order. -/
abbrev AutomatonState := List Place

/-- A state in the making: the elements that have been opened and the places, last first. -/
structure Reached where
  opened : Std.HashSet Nat
  places : List Place

namespace Reached

/-- Nothing is reached yet. -/
def empty : Reached := ⟨∅, []⟩

/-- Opens elements up to the first that has been opened: those behind it have been, too. -/
def openAll (r : Reached) : List Opening → Reached
  | [] => r
  | o :: rest =>
    if r.opened.contains o.element then r
    else openAll ⟨r.opened.insert o.element, o.places.reverse ++ r.places⟩ rest

/-- Goes on from a place with a byte; `table` says what is opened at each element, by number. -/
def goOn (table : Array (List Opening)) (byte : Nat) (r : Reached) (p : Place) : Reached :=
  match p.owed with
  | [] => r
  | range :: rest =>
    if range.has byte then
      if rest = [] then r.openAll (table[p.next]?.getD [])
      else { r with places := { p with owed := rest } :: r.places }
    else r

def state (r : Reached) : AutomatonState := r.places.reverse

end Reached

namespace AutomatonState

/-- One byte of each kind that the places of a state tell apart. -/
def tellingBytes (s : AutomatonState) : List Nat :=
  (s.foldl (fun bytes p =>
    match p.owed with
    | [] => bytes
    | range :: _ => (bytes.insert range.first).insert (range.last + 1))
    (∅ : Std.HashSet Nat)).toList

/-- The states that a state leads to. -/
def successors (table : Array (List Opening)) (s : AutomatonState) : List AutomatonState :=
  (s.tellingBytes.map fun byte => (s.foldl (Reached.goOn table byte) .empty).state).filter (· ≠ [])

end AutomatonState

/-! ## Counting states -/

/-- The states found, and those of them that are still to be visited. -/
structure Exploration where
  found : Std.HashSet AutomatonState
  waiting : List AutomatonState

namespace Exploration

/-- Finds a state. -/
def find (e : Exploration) (s : AutomatonState) : Exploration :=
  if e.found.contains s then e else ⟨e.found.insert s, s :: e.waiting⟩

/-- Visits the states that wait until there are none or too many have been found; `budget` bounds
the number of visits. -/
def run (table : Array (List Opening)) (limit : Nat) : Nat → Exploration → Exploration
  | 0, e => e
  | budget + 1, e =>
    match e.waiting with
    | [] => e
    | s :: waiting =>
      if limit < e.found.size then e
      else run table limit budget ((s.successors table).foldl find { e with waiting })

end Exploration

/-- The greatest number of states the engine accepts. -/
def stateLimit : Nat := 1000

/-- Whether the automaton of some elements fits.  Every visited state has been found, so one visit
more than the limit allows shows whether there are too many. -/
def automatonFits (items : List RegexItem) : Bool :=
  let opened := openings (numbered items)
  let start := (Reached.empty.openAll (opened.headD [])).state
  let e := Exploration.run opened.reverse.toArray stateLimit (stateLimit + 1)
    (Exploration.find ⟨∅, []⟩ start)
  e.found.size ≤ stateLimit

/-- Whether the engine accepts a regular expression. -/
def regexAccepted (regex : String) : Bool :=
  let items := RegexItem.read regex.toList
  programFits items && automatonFits items

end HelpQuery
