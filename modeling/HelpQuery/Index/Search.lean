import HelpQuery.Index.Engine
import HelpQuery.Query.Compiler

/-!
# Searching an index

A document is analyzed when it is added, and the documents of a commit make up a segment.  Searching
compiles the tree of a query, collects the documents of each segment that it finds and gives the
keys of the best ones, no more than a limit.
-/

namespace HelpQuery

/-- The texts of a document by field, in order. -/
abbrev FieldTexts := List (String × List String)

def FieldTexts.of (texts : FieldTexts) (field : String) : List String :=
  (texts.filter (·.1 == field)).flatMap (·.2)

/-- An index: its segments can be searched, the waiting documents once they are committed. -/
structure Index where
  schema : Schema
  pipeline : Pipeline
  /-- The documents of each commit. -/
  segments : List (List StoredDocument)
  waiting : List StoredDocument

namespace Index

def empty (schema : Schema) (pipeline : Pipeline) : Index := ⟨schema, pipeline, [], []⟩

/-- The documents that can be searched. -/
def documents (ix : Index) : List StoredDocument := ix.segments.flatten

/-! ## Adding documents -/

/-- The postings of one text under a tokenizer. -/
def textPostings (ix : Index) : Tokenizer → String → Postings
  | .raw => .whole
  | .simple => .plain
  | .registered => ix.pipeline.postings

/-- The postings of a field with its name, if it is an indexed text field. -/
def postingsOf (ix : Index) (texts : FieldTexts) (f : SchemaField) : Option (String × Postings) :=
  match f.kind with
  | .text (some indexing) =>
    some (f.name, .concat ((texts.of f.name).map (ix.textPostings indexing.tokenizer)))
  | _ => none

/-- The document that is stored for the texts of its fields. -/
def store (ix : Index) (texts : FieldTexts) : StoredDocument where
  key := (texts.of Schema.keyName).head?.getD ""
  fields := ix.schema.fields.filterMap (ix.postingsOf texts)

def add (ix : Index) (texts : FieldTexts) : Index :=
  { ix with waiting := ix.waiting ++ [ix.store texts] }

/-- Makes the waiting documents searchable. -/
def commit (ix : Index) : Index :=
  { ix with segments := ix.segments ++ [ix.waiting], waiting := [] }

end Index

/-! ## Running queries -/

/-- The fault of a leaf whose field lacks what is to be read of it: a term is read from the index,
and a phrase from positions. -/
def Lookup.fault? (s : Schema) : Lookup → Option EngineError
  | term field _ =>
    match s.kind? field with
    | some (.text (some _)) => none
    | _ => some (.notIndexed field)
  | phrase field _ =>
    match s.kind? field with
    | some (.text (some ⟨_, .positions⟩)) => none
    | _ => some (.noPositions field)
  | _ => none

/-- A document that is found, with its score. -/
structure Found where
  document : StoredDocument
  score : Single

/-- The key of a document that is found, with its score. -/
structure Hit where
  key : String
  score : Single
  deriving DecidableEq

def Found.hit (f : Found) : Hit := ⟨f.document.key, f.score⟩

/-- The hits, and the terms to highlight in them. -/
structure SearchResults where
  hits : List Hit
  highlightTerms : String
  deriving DecidableEq

namespace Index

variable (E : Engine)

/-- A segment of an index. -/
def segment (ix : Index) (documents : List StoredDocument) : Segment :=
  ⟨ix.schema, ix.documents, documents⟩

/-- What an engine collects for a query, in the order of the index. -/
def collect (ix : Index) (query : EngineQuery Single) : List Found :=
  ix.segments.flatMap fun documents =>
    let segment := ix.segment documents
    (E.collect segment query).map fun d => ⟨d, E.score segment query d⟩

/-- The documents that a tree finds, in the order of the index. -/
def find (ix : Index) (tree : Tree) : Except EngineError (List Found) := do
  if (ix.schema.kind? Schema.keyName).isNone then throw (.unknownField Schema.keyName)
  let query ← tree.compile E ix.schema
  match query.lookups.findSome? (Lookup.fault? ix.schema) with
  | some fault => throw fault
  | none => return ix.collect E query

/-- The best of the documents that are found; those of one score stay as they are. -/
def best (limit : Nat) (found : List Found) : List Found :=
  (found.mergeSort fun a b => !a.score.lt b.score).take limit

/-- Runs a compiled query; one without a tree, or a limit of zero, finds nothing. -/
def search (ix : Index) (q : CompiledQuery) (limit : Nat) : Except EngineError SearchResults :=
  match q.tree? with
  | none => return ⟨[], q.highlightTerms⟩
  | some tree =>
    if limit = 0 then return ⟨[], q.highlightTerms⟩
    else do return ⟨(best limit (← ix.find E tree)).map Found.hit, q.highlightTerms⟩

end Index

end HelpQuery
