import HelpQuery.Json.Value
import HelpQuery.Text.Quoted

/-!
# JSON texts

A value is written compactly, without any blank, or over several lines with two spaces of
indentation for each level; an empty array or object stays on its line in both.
-/

namespace HelpQuery.Json

/-- The four base-sixteen digits of a control character. -/
def controlDigits (c : Char) : List Char :=
  let ds := Text.hexDigits c.toNat
  List.replicate (4 - ds.length) '0' ++ ds

/-- One character inside a JSON string. -/
def escapeChar (c : Char) : List Char :=
  match c with
  | '"' => ['\\', '"']
  | '\\' => ['\\', '\\']
  | '\x08' => ['\\', 'b']
  | '\x0c' => ['\\', 'f']
  | '\n' => ['\\', 'n']
  | '\r' => ['\\', 'r']
  | '\t' => ['\\', 't']
  | c => if c.toNat < 0x20 then '\\' :: 'u' :: controlDigits c else [c]

/-- A text as a JSON string. -/
def quote (text : String) : String :=
  String.ofList ('"' :: text.toList.flatMap escapeChar ++ ['"'])

mutual

/-- The value without any blank. -/
def compact : Json → String
  | null => "null"
  | bool b => if b then "true" else "false"
  | number text => text
  | string text => quote text
  | array items => "[" ++ ",".intercalate (compactItems items) ++ "]"
  | object members => "\x7b" ++ ",".intercalate (compactMembers members) ++ "\x7d"

def compactItems : List Json → List String
  | [] => []
  | item :: rest => item.compact :: compactItems rest

def compactMembers : List (String × Json) → List String
  | [] => []
  | (key, value) :: rest => (quote key ++ ":" ++ value.compact) :: compactMembers rest

end

/-- The start of a line at a level. -/
def newLine (level : Nat) : String := "\n" ++ String.ofList (List.replicate (2 * level) ' ')

/-- Entries between brackets, one on each line at `level`; none leave the brackets together. -/
def block (level : Nat) (opening closing : String) (entries : List String) : String :=
  match entries with
  | [] => opening ++ closing
  | _ =>
    opening ++ ",".intercalate (entries.map (newLine level ++ ·)) ++ newLine (level - 1) ++ closing

mutual

/-- The value over several lines, `level` being that of its entries. -/
def prettyAt (level : Nat) : Json → String
  | null => "null"
  | bool b => if b then "true" else "false"
  | number text => text
  | string text => quote text
  | array items => block level "[" "]" (prettyItems level items)
  | object members => block level "\x7b" "\x7d" (prettyMembers level members)

def prettyItems (level : Nat) : List Json → List String
  | [] => []
  | item :: rest => prettyAt (level + 1) item :: prettyItems level rest

def prettyMembers (level : Nat) : List (String × Json) → List String
  | [] => []
  | (key, value) :: rest =>
    (quote key ++ ": " ++ prettyAt (level + 1) value) :: prettyMembers level rest

end

/-- The value over several lines. -/
def pretty (value : Json) : String := prettyAt 1 value

end HelpQuery.Json
