import HelpQuery.Json.Printer
import HelpQuery.Query.Report

/-!
# Reports as JSON

The JSON form of a compiled query and its pieces.  Tokens and parts are objects with their kind and,
operators apart, their content; a tree node starts with its type.
-/

namespace HelpQuery

namespace Operator

/-- The kind an operator is reported as. -/
def kind : Operator → String
  | and => "and"
  | or => "or"
  | not => "not"

end Operator

namespace Token

def toJson : Token → Json
  | word text => .object [("kind", .string "word"), ("text", .string text)]
  | phrase text => .object [("kind", .string "phrase"), ("text", .string text)]
  | operator op => .object [("kind", .string op.kind)]

end Token

namespace Part

def toJson : Part → Json
  | atom (.term text) => .object [("kind", .string "term"), ("terms", .string text)]
  | atom (.wildcard pattern) => .object [("kind", .string "wildcard"), ("terms", .string pattern)]
  | atom (.phrase terms) => .object [("kind", .string "phrase"), ("terms", Json.strings terms)]
  | operator op => .object [("kind", .string op.kind)]

end Part

namespace Field

def toJson (f : Field) : Json :=
  .object [("name", .string f.name), ("boost", Json.ofSingle f.boost)]

end Field

def FieldSet.toJson (fields : FieldSet) : Json := .array (fields.toList.map Field.toJson)

/-- The name a requirement is reported under. -/
def Requirement.key : Requirement → String
  | required => "required"
  | prohibited => "prohibited"
  | optional => "optional"

/-- The type of a leaf and what it looks for. -/
def Atom.members : Atom → (String × (String × Json))
  | term text => ("term", ("text", .string text))
  | wildcard pattern => ("wildcard", ("pattern", .string pattern))
  | phrase terms => ("phrase", ("terms", Json.strings terms))

namespace Tree

mutual

def toJson : Tree → Json
  | leaf field atom boost =>
    .object [("type", .string atom.members.1), ("field", .string field), atom.members.2,
      ("boost", Json.ofSingle boost)]
  | boolean cs => .object [("type", .string "boolean"), ("clauses", .array (clausesJson cs))]

def clausesJson : List (Clause Tree) → List Json
  | [] => []
  | ⟨requirement, query⟩ :: rest =>
    .object [("query", query.toJson), ("requirement", .string requirement.key)]
      :: clausesJson rest

end

end Tree

namespace CompiledQuery

/-- The compiled query and the fields it was compiled for. -/
def toJson (q : CompiledQuery) (fields : FieldSet) : Json :=
  .object
    [("raw", .string q.raw),
     ("lexical", .array (q.tokens.map Token.toJson)),
     ("normalized", .array (q.parts.map Part.toJson)),
     ("tree", q.tree?.elim .null Tree.toJson),
     ("highlight_terms", .string q.highlightTerms),
     ("fields", fields.toJson),
     ("query_string", q.tree?.elim .null fun tree => .string tree.queryString),
     ("unterminated_quote", .bool (hasUnterminatedQuote q.raw))]

end CompiledQuery

end HelpQuery
