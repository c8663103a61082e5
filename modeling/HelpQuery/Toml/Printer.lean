/-!
# Writing TOML

A text is written in the first form that fits: a basic string without escapes other than of tabs, a
literal string, either of them over several lines, and at last a basic string with escapes.  A list
of two or more texts has each on its own line.
-/

namespace HelpQuery.Toml

/-! ## What a text holds -/

/-- A control other than a tab or a line feed. -/
def needsEscape (c : Char) : Bool :=
  c != '\t' && c != '\n' && (c.toNat < 0x20 || c == '\x7f')

/-- The length of the longest run of a character; `current` is that of the run going on. -/
def longestRun (mark : Char) (current : Nat) : List Char → Nat
  | [] => current
  | c :: rest =>
    if c = mark then longestRun mark (current + 1) rest
    else max current (longestRun mark 0 rest)

/-! ## Escapes -/

/-- The four base-sixteen digits of a control, upper case. -/
def controlDigits (c : Char) : List Char :=
  let ds := (Nat.toDigits 16 c.toNat).map Char.toUpper
  List.replicate (4 - ds.length) '0' ++ ds

/-- A character other than a quotation mark inside a basic string. -/
def escapeChar (long : Bool) (c : Char) : List Char :=
  match c with
  | '\x08' => ['\\', 'b']
  | '\t' => ['\\', 't']
  | '\n' => if long then ['\n'] else ['\\', 'n']
  | '\x0c' => ['\\', 'f']
  | '\r' => ['\\', 'r']
  | '\\' => ['\\', '\\']
  | c => if c.toNat < 0x20 ∨ c = '\x7f' then '\\' :: 'u' :: controlDigits c else [c]

/-- The inside of a basic string.  Over several lines up to two quotation marks in a row need no
escape; `marks` counts those just written. -/
def escapeText (long : Bool) (marks : Nat) : List Char → List Char
  | [] => []
  | c :: rest =>
    if c = '"' then
      if long ∧ marks < 2 then '"' :: escapeText long (marks + 1) rest
      else '\\' :: '"' :: escapeText long 0 rest
    else escapeChar long c ++ escapeText long 0 rest

/-! ## Texts -/

/-- The forms of a text. -/
inductive TextForm where
  | basic
  | literal
  | longBasic
  | longLiteral
  deriving DecidableEq, Repr

/-- The form a text is written in. -/
def textForm (text : List Char) : TextForm :=
  let newline := text.contains '\n'
  let controls := text.any needsEscape
  let backslash := text.contains '\\'
  let marks := longestRun '"' 0 text
  let apostrophes := longestRun '\'' 0 text
  if !controls && !backslash && marks == 0 && !newline then .basic
  else if !controls && apostrophes == 0 && !newline then .literal
  else if !controls && !backslash && marks ≤ 2 then .longBasic
  else if !controls && apostrophes ≤ 2 then .longLiteral
  else if newline then .longBasic
  else .basic

/-- A text as a TOML string. -/
def writeText (text : String) : String :=
  let cs := text.toList
  let opening := if cs.contains '\n' then ['\n'] else []
  String.ofList <|
    match textForm cs with
    | .basic => '"' :: escapeText false 0 cs ++ ['"']
    | .literal => '\'' :: cs ++ ['\'']
    | .longBasic =>
      ['"', '"', '"'] ++ opening ++ escapeText true 0 cs ++ ['"', '"', '"']
    | .longLiteral => ['\'', '\'', '\''] ++ opening ++ cs ++ ['\'', '\'', '\'']

/-- A list of texts as a TOML array. -/
def writeTexts (texts : List String) : String :=
  match texts with
  | [] => "[]"
  | [text] => "[" ++ writeText text ++ "]"
  | _ => "[\n" ++ String.join (texts.map fun t => "    " ++ writeText t ++ ",\n") ++ "]"

def writeBoolean (b : Bool) : String := if b then "true" else "false"

/-- A key with its value on a line. -/
def writeLine (key value : String) : String := key ++ " = " ++ value ++ "\n"

end HelpQuery.Toml
