import HelpQuery.Toml.Scalar
import HelpQuery.Toml.Table
import HelpQuery.Toml.Text

/-!
# Reading TOML documents

A document is read as a list of statements, headers and assignments, from which its table is built.
The readers of nested values carry a budget that shrinks with every step; the length of the text is
always enough.  Arrays and inline tables nest at most eighty deep, and a dotted key has at most
eighty names.
-/

namespace HelpQuery.Toml

/-! ## Space -/

def isSpace (c : Char) : Bool := c == ' ' || c == '\t'

def dropSpace (cs : List Char) : List Char := cs.dropWhile isSpace

/-- What follows the rest of a line that holds nothing but blanks and a comment. -/
def lineEnd? (cs : List Char) : Option (List Char) :=
  let rest := match dropSpace cs with
    | '#' :: r => r.dropWhile isTextChar
    | r => r
  match rest with
  | [] => some []
  | '\n' :: r => some r
  | '\r' :: '\n' :: r => some r
  | _ => none

/-- What follows blanks, line ends and comments; `comment` tells whether a comment is going on. -/
def skipLines? (comment : Bool) : List Char → Option (List Char)
  | [] => some []
  | c :: rest =>
    if c = '\n' then skipLines? false rest
    else if c = '\r' then
      if rest.head? = some '\n' then skipLines? comment rest else none
    else if comment then if isTextChar c then skipLines? true rest else none
    else if isSpace c then skipLines? false rest
    else if c = '#' then skipLines? true rest
    else some (c :: rest)

/-- What follows blanks, and between braces also line ends and comments. -/
def skipGap? (inBraces : Bool) (cs : List Char) : Option (List Char) :=
  if inBraces then skipLines? false cs else some (dropSpace cs)

/-! ## Keys -/

def isBareKeyChar (c : Char) : Bool := c.isAlphanum || c == '_' || c == '-'

/-- A bare or quoted key. -/
def key? (cs : List Char) : Option (String × List Char) :=
  match cs with
  | '"' :: rest => (basicText (.plain false) rest).map fun (k, r) => (String.ofList k, r)
  | '\'' :: rest => (literalText rest).map fun (k, r) => (String.ofList k, r)
  | _ =>
    match cs.takeWhile isBareKeyChar with
    | [] => none
    | k => some (String.ofList k, cs.dropWhile isBareKeyChar)

/-- Names with points between them, blanks allowed around each; there may be `limit` of them. -/
def dotted? (limit : Nat) (cs : List Char) : Option (List String × List Char) :=
  match limit with
  | 0 => none
  | limit + 1 => do
    let (name, rest) ← key? (dropSpace cs)
    match dropSpace rest with
    | '.' :: more =>
      let (names, after) ← dotted? limit more
      return (name :: names, after)
    | after => return ([name], after)

/-- The greatest number of names in a dotted key. -/
def nameLimit : Nat := 80

/-- A dotted key. -/
def path? (cs : List Char) : Option (List String × List Char) := dotted? nameLimit cs

/-! ## Values -/

/-- The greatest depth of arrays and inline tables in each other. -/
def nestingLimit : Nat := 80

mutual

/-- A value that may hold `depth` more levels. -/
def value? (budget depth : Nat) (cs : List Char) : Option (Toml × List Char) :=
  match budget, depth, cs with
  | 0, _, _ => none
  | budget + 1, depth + 1, '[' :: rest => do
    let (items, after) ← items? budget depth (← skipLines? false rest)
    return (.array items, after)
  | budget + 1, depth + 1, '\x7b' :: rest => do
    let (pairs, after) ← pairs? budget depth (← skipLines? false rest)
    return (.table (finishEntries (← Entries.assignAll pairs [])), after)
  | _ + 1, _, cs =>
    if cs.head? = some '"' ∨ cs.head? = some '\'' then
      (readText cs).map fun (t, r) => (.string (String.ofList t), r)
    else
      let (text, rest) := splitScalar cs
      (scalar? text).map (·, rest)

/-- The items of an array up to its closing bracket; a comma may follow the last. -/
def items? (budget depth : Nat) (cs : List Char) : Option (List Toml × List Char) :=
  match budget, cs with
  | 0, _ => none
  | _ + 1, ']' :: rest => some ([], rest)
  | budget + 1, cs => do
    let (item, rest) ← value? budget depth cs
    match ← skipLines? false rest with
    | ',' :: more =>
      let (items, after) ← items? budget depth (← skipLines? false more)
      return (item :: items, after)
    | ']' :: after => return ([item], after)
    | _ => none

/-- The assignments of an inline table up to its closing brace; a comma may follow the last. -/
def pairs? (budget depth : Nat) (cs : List Char) :
    Option (List (List String × Toml) × List Char) :=
  match budget, cs with
  | 0, _ => none
  | _ + 1, '\x7d' :: rest => some ([], rest)
  | budget + 1, cs => do
    let (pair, rest) ← assignment? budget depth true cs
    match ← skipLines? false rest with
    | ',' :: more =>
      let (pairs, after) ← pairs? budget depth (← skipLines? false more)
      return (pair :: pairs, after)
    | '\x7d' :: after => return ([pair], after)
    | _ => none

/-- A dotted key, an equals sign and a value; `inBraces` tells whether they are in an inline
table. -/
def assignment? (budget depth : Nat) (inBraces : Bool) (cs : List Char) :
    Option ((List String × Toml) × List Char) :=
  match budget with
  | 0 => none
  | budget + 1 => do
    let (path, rest) ← path? cs
    match ← skipGap? inBraces rest with
    | '=' :: more =>
      let (v, after) ← value? budget depth (← skipGap? inBraces more)
      return ((path, v), after)
    | _ => none

end

/-! ## Documents -/

/-- A header and the assignments below it. -/
structure Section where
  /-- Whether the header asks for a new element of an array of tables. -/
  element : Bool
  path : List String
  pairs : List (List String × Toml)

/-- A document: assignments before the first header, and sections. -/
structure Document where
  pairs : List (List String × Toml)
  sections : List Section

namespace Document

/-- Puts an assignment in front of a document. -/
def consPair (pair : List String × Toml) (d : Document) : Document :=
  ⟨pair :: d.pairs, d.sections⟩

/-- Puts a header in front of a document; the assignments at its start go below the header. -/
def consHeader (element : Bool) (path : List String) (d : Document) : Document :=
  ⟨[], ⟨element, path, d.pairs⟩ :: d.sections⟩

/-- The table a document describes. -/
def entries? (d : Document) : Option Entries :=
  (Entries.assignAll d.pairs []).bind fun top =>
    d.sections.foldlM
      (fun es s => Entries.define s.element (Entries.assignAll s.pairs) s.path es) top

end Document

/-- What follows the closing of a header. -/
def afterHeader? (element : Bool) (cs : List Char) : Option (List Char) :=
  match element, cs with
  | false, ']' :: rest => some rest
  | true, ']' :: ']' :: rest => some rest
  | _, _ => none

/-- The statements of a document. -/
def document? : Nat → List Char → Option Document
  | 0, _ => none
  | budget + 1, cs => do
    match ← skipLines? false cs with
    | [] => return ⟨[], []⟩
    | '[' :: rest =>
      let (element, rest) := match rest with
        | '[' :: r => (true, r)
        | r => (false, r)
      let (path, rest) ← path? rest
      let d ← document? budget (← lineEnd? (← afterHeader? element rest))
      return d.consHeader element path
    | cs =>
      let (pair, rest) ← assignment? (2 * cs.length + 1) nestingLimit false cs
      let d ← document? budget (← lineEnd? rest)
      return d.consPair pair

/-- The entries of a document; a byte order mark at its start is dropped. -/
def parse (text : String) : Option (List (String × Toml)) :=
  let cs := match text.toList with
    | '\uFEFF' :: r => r
    | cs => cs
  (document? (cs.length + 1) cs).bind fun d => d.entries?.map finishEntries

end HelpQuery.Toml
