import HelpQuery.Text.Alphanumeric

/-!
# Runs of letters and digits

The raw tokens of a text are its maximal runs of alphanumeric characters, with the byte offsets of
their ends in the UTF-8 form of the text.
-/

namespace HelpQuery

/-- The number of bytes of a text in UTF-8. -/
def byteLength (text : List Char) : Nat := text.foldr (fun c n => c.utf8Size + n) 0

/-- A run of characters that starts at a byte offset. -/
structure Run where
  start : Nat
  chars : List Char
  deriving DecidableEq, Repr

/-- The byte offset at which a run ends. -/
def Run.stop (r : Run) : Nat := r.start + byteLength r.chars

/-- Puts a character in front of the runs after it; one that starts right behind it is extended. -/
def extendRuns (offset : Nat) (c : Char) : List Run → List Run
  | [] => [⟨offset, [c]⟩]
  | r :: rest =>
    if r.start = offset + c.utf8Size then ⟨offset, c :: r.chars⟩ :: rest
    else ⟨offset, [c]⟩ :: r :: rest

/-- The maximal alphanumeric runs of a text that starts at a byte offset, in order. -/
def runsFrom (offset : Nat) : List Char → List Run
  | [] => []
  | c :: rest =>
    let after := runsFrom (offset + c.utf8Size) rest
    if Text.isAlphanumeric c then extendRuns offset c after else after

/-- The maximal alphanumeric runs of a text, in order. -/
def runs (text : String) : List Run := runsFrom 0 text.toList

end HelpQuery
