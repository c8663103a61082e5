import HelpQuery.Text.Segments

/-!
# Paths

A path is the list of texts between its slashes, which keeps its spelling.  Empty parts and parts
that are a single point do not count, except a point at the very start, so paths are compared, and
their parents found, by the other parts.  Nothing is looked up: `..` is a part like any other.
-/

namespace HelpQuery

structure Path where
  /-- Whether the path starts at the root. -/
  rooted : Bool
  parts : List String
  deriving DecidableEq, Repr

namespace Path

/-- The parts between slashes of a text that does not start at the root. -/
def splitParts (text : List Char) : List String := (segments (· == '/') text).map String.ofList

def ofString (text : String) : Path :=
  match text.toList with
  | '/' :: rest => ⟨true, splitParts rest⟩
  | cs => ⟨false, splitParts cs⟩

def toString (p : Path) : String := (if p.rooted then "/" else "") ++ "/".intercalate p.parts

/-- Whether a part counts, `first` telling that it is the first of a path not at the root. -/
def counts (first : Bool) (part : String) : Bool := part != "" && (part != "." || first)

/-- The parts that count. -/
def names (p : Path) : List String :=
  match p.parts with
  | [] => []
  | part :: rest => (if counts (!p.rooted) part then [part] else []) ++ rest.filter (counts false)

/-- Equality of paths: at the root both or neither, and the same names. -/
def same (p q : Path) : Bool := p.rooted == q.rooted && p.names == q.names

/-- Drops the parts at the end that do not count; the parts are given last first. -/
def trimBack (rooted : Bool) : List String → List String
  | [] => []
  | part :: before =>
    if counts (!rooted && before.isEmpty) part then part :: before else trimBack rooted before

/-- The ancestors of a path other than itself, closest first, all with their parts last first. -/
def ancestorsBack (rooted : Bool) : List String → List (List String)
  | [] => []
  | part :: before =>
    if counts (!rooted && before.isEmpty) part then
      trimBack rooted before :: ancestorsBack rooted before
    else ancestorsBack rooted before

/-- The path without its last name; the root and the empty path have none. -/
def parent? (p : Path) : Option Path :=
  match trimBack p.rooted p.parts.reverse with
  | [] => none
  | _ :: before => some ⟨p.rooted, (trimBack p.rooted before).reverse⟩

/-- The path and its ancestors, closest first. -/
def ancestors (p : Path) : List Path :=
  p :: (ancestorsBack p.rooted p.parts.reverse).map fun back => ⟨p.rooted, back.reverse⟩

/-- The path of a name in a directory. -/
def join (p : Path) (name : String) : Path :=
  if p.parts.getLast? = some "" then ⟨p.rooted, p.parts.dropLast ++ [name]⟩
  else ⟨p.rooted, p.parts ++ [name]⟩

end Path

end HelpQuery
