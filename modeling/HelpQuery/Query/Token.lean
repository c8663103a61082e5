import HelpQuery.Text.Blank
import HelpQuery.Text.Lowercase

/-!
# Tokens of a raw query

Quotation marks switch between the unquoted and the quoted side.  Unquoted text is cut into words,
of which AND, OR and NOT in any case are operators; quoted text is one phrase, verbatim, once its
closing mark is seen.  Text after an unmatched last mark is dropped.
-/

namespace HelpQuery

/-- A reserved word of the query language. -/
inductive Operator where
  | and
  | or
  | not
  deriving DecidableEq, Repr

namespace Operator

def spelling : Operator → String
  | and => "AND"
  | or => "OR"
  | not => "NOT"

/-- The operator a word spells, the case of its letters aside. -/
def ofWord? (word : List Char) : Option Operator :=
  [and, or, not].find? fun op => Text.sameIgnoringCase word op.spelling.toList

end Operator

/-- A token of a raw query. -/
inductive Token where
  | word (text : String)
  | phrase (text : String)
  | operator (op : Operator)
  deriving DecidableEq, Repr

namespace Token

def isOperator : Token → Bool
  | operator _ => true
  | _ => false

/-- The token of a word outside quotation marks. -/
def ofWord (word : List Char) : Token :=
  match Operator.ofWord? word with
  | some op => operator op
  | none => Token.word (String.ofList word)

/-- The tokens of the segments between quotation marks; `quoted` tells the side of the first. -/
def ofSegments (quoted : Bool) : List (List Char) → List Token
  | [] => []
  | segment :: rest =>
    if quoted then
      if rest = [] then [] else phrase (String.ofList segment) :: ofSegments false rest
    else (Text.words segment).map ofWord ++ ofSegments true rest

/-- The tokens of a raw query, in order. -/
def scan (raw : String) : List Token :=
  ofSegments false (segments (· == '"') (Text.trim raw.toList))

end Token

/-- Whether the raw query has an unmatched last quotation mark: their number is odd. -/
def hasUnterminatedQuote (raw : String) : Bool :=
  raw.toList.countP (· == '"') % 2 == 1

end HelpQuery
