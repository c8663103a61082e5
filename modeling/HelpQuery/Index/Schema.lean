import HelpQuery.Query.Field

/-!
# Index schemas

A schema lists the fields of an index.  The schema for a field set has the key of each document
first, kept as a whole, and then every other field once, as analyzed text with positions.
-/

namespace HelpQuery

/-- What an index knows about the terms of a field. -/
inductive Indexing where
  | basic
  | frequencies
  | positions
  deriving DecidableEq, Repr

/-- How the text of a field becomes terms. -/
inductive Tokenizer where
  /-- The whole text is one term. -/
  | raw
  /-- Lower case alphanumeric runs. -/
  | simple
  /-- The pipeline registered with the index. -/
  | registered
  deriving DecidableEq, Repr

namespace Tokenizer

/-- The name a tokenizer is registered under. -/
def name : Tokenizer → String
  | raw => "raw"
  | simple => "default"
  | registered => "hq_text"

end Tokenizer

/-- How the text of a field is indexed. -/
structure TextIndexing where
  tokenizer : Tokenizer
  record : Indexing
  deriving DecidableEq, Repr

inductive FieldKind where
  /-- Text, which is stored even if it is not indexed. -/
  | text (indexing? : Option TextIndexing)
  /-- Numbers, flags and bytes, which are not searched here. -/
  | other
  deriving DecidableEq, Repr

structure SchemaField where
  name : String
  kind : FieldKind
  deriving DecidableEq, Repr

/-- The fields of an index, in order; text is stored. -/
structure Schema where
  fields : List SchemaField
  deriving DecidableEq, Repr

/-- Why a query cannot be run on an index. -/
inductive EngineError where
  | unknownField (name : String)
  | notTextField (name : String)
  /-- The automaton of a wildcard pattern is too large. -/
  | wildcard (pattern : String)
  /-- A term is looked for in a text field that is not indexed. -/
  | notIndexed (name : String)
  /-- A phrase is looked for in a field without positions. -/
  | noPositions (name : String)
  deriving DecidableEq, Repr

namespace EngineError

def message : EngineError → String
  | unknownField name => "unknown field: " ++ name
  | notTextField name => "field is not a text field: " ++ name
  | wildcard pattern => "invalid wildcard pattern '" ++ pattern ++ "'"
  | notIndexed name => "search failed: field " ++ name ++ " is not indexed"
  | noPositions name => "search failed: no positions in field " ++ name

end EngineError

/-- The names of a list at their first places; `seen` holds those already passed. -/
def distinctNames (seen : List String) : List String → List String
  | [] => []
  | name :: rest =>
    if name ∈ seen then distinctNames seen rest else name :: distinctNames (name :: seen) rest

namespace Schema

/-- The field that holds the key of a document. -/
def keyName : String := "href"

/-- The schema for the documents that a field set is searched in. -/
def ofFieldSet (fields : FieldSet) : Schema where
  fields :=
    ⟨keyName, .text (some ⟨.raw, .basic⟩)⟩
      :: (distinctNames [keyName] fields.names).map (⟨·, .text (some ⟨.registered, .positions⟩)⟩)

/-- The kind of a field. -/
def kind? (s : Schema) (name : String) : Option FieldKind :=
  (s.fields.find? (·.name == name)).map SchemaField.kind

/-- How the text of a text field is indexed, if it is. -/
def textField (s : Schema) (name : String) : Except EngineError (Option TextIndexing) :=
  match s.kind? name with
  | some (.text indexing?) => .ok indexing?
  | some .other => .error (.notTextField name)
  | none => .error (.unknownField name)

end Schema

end HelpQuery
