/-!
# Texts in TOML

Basic strings stand between quotation marks and know escapes, literal strings between apostrophes
and know none.  Both have a form over several lines between three marks, where a line feed right
after the opening is dropped and up to two marks may stand before the closing.  Each reader takes
what follows the opening and gives the text and what follows the closing.
-/

namespace HelpQuery.Toml

/-- A character other than a control, a tab included. -/
def isTextChar (c : Char) : Bool := c == '\t' || (0x20 ≤ c.toNat && c != '\x7f')

/-- The value of a digit of base sixteen. -/
def hexValue? (c : Char) : Option Nat :=
  if c.isDigit then some (c.toNat - '0'.toNat)
  else if 'a' ≤ c ∧ c ≤ 'f' then some (c.toNat - 'a'.toNat + 10)
  else if 'A' ≤ c ∧ c ≤ 'F' then some (c.toNat - 'A'.toNat + 10)
  else none

/-- The character with a code point, if there is one. -/
def charOf? (n : Nat) : Option Char :=
  if n.isValidChar then some (Char.ofNat n) else none

/-- The character of a one-letter escape. -/
def escapedChar? : Char → Option Char
  | 'b' => some '\x08'
  | 't' => some '\t'
  | 'n' => some '\n'
  | 'f' => some '\x0c'
  | 'r' => some '\r'
  | 'e' => some '\x1b'
  | '"' => some '"'
  | '\\' => some '\\'
  | _ => none

/-- The number of digits of an escape that gives a code point. -/
def escapeLength? : Char → Option Nat
  | 'x' => some 2
  | 'u' => some 4
  | 'U' => some 8
  | _ => none

/-- Where in a basic string the reader is. -/
inductive BasicState where
  /-- Between characters; after a line continuation, blanks and line ends are skipped. -/
  | plain (skipping : Bool)
  /-- After a backslash. -/
  | escape
  /-- In an escape with some digits to come and a value so far. -/
  | digits (left value : Nat)
  /-- After a backslash and blanks, before the line end that has to follow. -/
  | lineEnd
  deriving DecidableEq, Repr

/-- What a reader of texts gives: the text and the characters after it. -/
abbrev TextResult := Option (List Char × List Char)

/-- Puts a character in front of a text. -/
def TextResult.cons (c : Char) (r : TextResult) : TextResult :=
  r.map fun (text, rest) => (c :: text, rest)

/-- The rest of a basic string. -/
def basicText (state : BasicState) : List Char → TextResult
  | [] => none
  | c :: rest =>
    match state with
    | .plain _ =>
      if c = '"' then some ([], rest)
      else if c = '\\' then basicText .escape rest
      else if isTextChar c then TextResult.cons c (basicText (.plain false) rest)
      else none
    | .escape =>
      match escapedChar? c, escapeLength? c with
      | some e, _ => TextResult.cons e (basicText (.plain false) rest)
      | none, some n => basicText (.digits n 0) rest
      | none, none => none
    | .digits left value =>
      match hexValue? c with
      | none => none
      | some d =>
        if left ≤ 1 then
          (charOf? (16 * value + d)).bind fun e => TextResult.cons e (basicText (.plain false) rest)
        else basicText (.digits (left - 1) (16 * value + d)) rest
    | .lineEnd => none

/-- The marks before a closing of three marks, once three have been read: at most two more. -/
def closing (mark : Char) (rest : List Char) : List Char × List Char :=
  match rest with
  | a :: b :: r =>
    if a = mark then if b = mark then ([mark, mark], r) else ([mark], b :: r) else ([], rest)
  | [a] => if a = mark then ([mark], []) else ([], rest)
  | [] => ([], [])

/-- The rest of a basic string over several lines. -/
def longBasicText (state : BasicState) : List Char → TextResult
  | [] => none
  | c :: rest =>
    match state with
    | .plain skipping =>
      if skipping ∧ (c = ' ' ∨ c = '\t' ∨ c = '\n') then longBasicText (.plain true) rest
      else if c = '\r' then
        if rest.head? = some '\n' then
          if skipping then longBasicText (.plain true) rest
          else TextResult.cons c (longBasicText (.plain false) rest)
        else none
      else if c = '"' then
        match rest with
        | '"' :: '"' :: after => some (closing '"' after)
        | _ => TextResult.cons c (longBasicText (.plain false) rest)
      else if c = '\\' then longBasicText .escape rest
      else if c = '\n' ∨ isTextChar c then TextResult.cons c (longBasicText (.plain false) rest)
      else none
    | .escape =>
      match escapedChar? c, escapeLength? c with
      | some e, _ => TextResult.cons e (longBasicText (.plain false) rest)
      | none, some n => longBasicText (.digits n 0) rest
      | none, none =>
        if c = ' ' ∨ c = '\t' then longBasicText .lineEnd rest
        else if c = '\n' then longBasicText (.plain true) rest
        else if c = '\r' ∧ rest.head? = some '\n' then longBasicText (.plain true) rest
        else none
    | .digits left value =>
      match hexValue? c with
      | none => none
      | some d =>
        if left ≤ 1 then
          (charOf? (16 * value + d)).bind fun e =>
            TextResult.cons e (longBasicText (.plain false) rest)
        else longBasicText (.digits (left - 1) (16 * value + d)) rest
    | .lineEnd =>
      if c = ' ' ∨ c = '\t' then longBasicText .lineEnd rest
      else if c = '\n' then longBasicText (.plain true) rest
      else if c = '\r' ∧ rest.head? = some '\n' then longBasicText (.plain true) rest
      else none

/-- The rest of a literal string. -/
def literalText : List Char → TextResult
  | [] => none
  | c :: rest =>
    if c = '\'' then some ([], rest)
    else if isTextChar c then TextResult.cons c (literalText rest)
    else none

/-- The rest of a literal string over several lines. -/
def longLiteralText : List Char → TextResult
  | [] => none
  | c :: rest =>
    if c = '\'' then
      match rest with
      | '\'' :: '\'' :: after => some (closing '\'' after)
      | _ => TextResult.cons c (longLiteralText rest)
    else if c = '\r' then
      if rest.head? = some '\n' then TextResult.cons c (longLiteralText rest) else none
    else if c = '\n' ∨ isTextChar c then TextResult.cons c (longLiteralText rest)
    else none

/-- Drops a line end right after the opening of a text over several lines. -/
def dropLineEnd : List Char → List Char
  | '\n' :: rest => rest
  | '\r' :: '\n' :: rest => rest
  | rest => rest

/-- A text in any of its four forms, opening included. -/
def readText : List Char → TextResult
  | '"' :: '"' :: '"' :: rest => longBasicText (.plain false) (dropLineEnd rest)
  | '"' :: rest => basicText (.plain false) rest
  | '\'' :: '\'' :: '\'' :: rest => longLiteralText (dropLineEnd rest)
  | '\'' :: rest => literalText rest
  | _ => none

end HelpQuery.Toml
