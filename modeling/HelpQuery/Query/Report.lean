import HelpQuery.Query.Compiler
import HelpQuery.Query.Printed
import HelpQuery.Text.Lines
import HelpQuery.Text.Uppercase

/-!
# Reports on compiled queries

The text report shows a query after each stage of compilation.
-/

namespace HelpQuery

/-- The wildcard patterns with an upper case letter: matched as typed, but index terms have none. -/
def uppercaseWildcards (parts : List Part) : List String :=
  parts.filterMap fun
    | .atom (.wildcard pattern) =>
      if pattern.toList.any Text.isUppercase then some pattern else none
    | _ => none

/-- A list with every item in brackets. -/
def bracketed (items : List String) : String :=
  match items with
  | [] => "(none)"
  | _ => " ".intercalate (items.map fun item => "[" ++ item ++ "]")

namespace Token

def shown : Token → String
  | word text => text
  | phrase text => "\"" ++ text ++ "\""
  | operator op => op.spelling

end Token

namespace Part

def shown : Part → String
  | atom a => a.queryString
  | operator op => op.spelling

end Part

/-- The tokens of a query as a bracketed list. -/
def tokensText (tokens : List Token) : String := bracketed (tokens.map Token.shown)

/-- The parts of a query as a bracketed list. -/
def partsText (parts : List Part) : String := bracketed (parts.map Part.shown)

/-- The fields with their boosts, `name^boost`, a boost of one left out. -/
def FieldSet.text (fields : FieldSet) : String :=
  " ".intercalate (fields.toList.map fun f => f.name ++ boostSuffix f.boost)

namespace CompiledQuery

/-- The lines about the tree. -/
def treeLines (q : CompiledQuery) : List String :=
  match q.tree? with
  | some tree =>
    ("Query string: " ++ tree.queryString) :: "Tree:" :: (Text.lines tree.view).map ("  " ++ ·)
  | none => ["Query string: (no query)"]

/-- Every stage of compilation as lines of text. -/
def report (q : CompiledQuery) (fields : FieldSet) : String :=
  "\n".intercalate
    (["Query:        " ++ q.raw,
      "Fields:       " ++ fields.text,
      "Lexical:      " ++ tokensText q.tokens,
      "Normalized:   " ++ partsText q.parts]
      ++ q.treeLines
      ++ ["Highlight:    " ++ q.highlightTerms]) ++ "\n"

end CompiledQuery

end HelpQuery
