import HelpQuery.Text.Segments

/-!
# Lines

Lines end at a line feed, which may have a carriage return before it.  A last line without its line
feed counts, an empty one does not, and it keeps a carriage return at its end.
-/

namespace HelpQuery.Text

/-- A line without the carriage return that stood before its line feed. -/
def dropReturn (line : List Char) : List Char :=
  if line.getLast? = some '\r' then line.dropLast else line

/-- The segments between line feeds, read as lines: all but the last were ended by one. -/
def linesOfSegments : List (List Char) → List (List Char)
  | [] => []
  | [last] => if last = [] then [] else [last]
  | line :: rest => dropReturn line :: linesOfSegments rest

/-- The lines of a text. -/
def lines (text : String) : List String :=
  (linesOfSegments (segments (· == '\n') text.toList)).map String.ofList

end HelpQuery.Text
