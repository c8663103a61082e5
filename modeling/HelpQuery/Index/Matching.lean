import HelpQuery.Index.EngineQuery
import HelpQuery.Index.Pattern
import HelpQuery.Index.Postings

/-!
# Matching documents

An index holds for each of its documents the key and the postings of each text field.  A term is
found at any position, and a phrase from a position on; a group holds if its required clauses do,
none of its prohibited ones does and, without a required clause, an optional one does.
-/

namespace HelpQuery

/-- A document as an index holds it. -/
structure StoredDocument where
  /-- The key; a document without one has an empty key. -/
  key : String
  /-- The postings of each indexed text field. -/
  fields : List (String × Postings)
  deriving DecidableEq, Repr

namespace StoredDocument

/-- The postings of a field; one that is not indexed has none. -/
def postings (d : StoredDocument) (field : String) : Postings :=
  (d.fields.lookup field).getD .empty

/-- The passages of each field. -/
def passages (d : StoredDocument) (field : String) : List (List String) :=
  (d.postings field).passages

end StoredDocument

/-- Whether a leaf finds something in a document, given by its postings. -/
def Lookup.holds (postings : String → Postings) : Lookup → Bool
  | term field text => (postings field).terms.contains text
  | phrase field terms => (postings field).hasPhrase terms
  | regex field r => (postings field).terms.any (regexMatches r)
  | nothing => false

/-- Whether a group holds, given what each of its clauses says. -/
def groupHolds (clauses : List (Requirement × Bool)) : Bool :=
  clauses.all (fun c => c.1 != .required || c.2) &&
  clauses.all (fun c => c.1 != .prohibited || !c.2) &&
  (clauses.any (fun c => c.1 == .required) || clauses.any (fun c => c.1 == .optional && c.2))

namespace EngineQuery

variable {α : Type}

mutual

/-- Whether a query holds of a document, given by its postings. -/
def holds (postings : String → Postings) : EngineQuery α → Bool
  | leaf lookup _ => lookup.holds postings
  | boolean cs => groupHolds (clausesHold postings cs)

def clausesHold (postings : String → Postings) :
    List (Clause (EngineQuery α)) → List (Requirement × Bool)
  | [] => []
  | ⟨requirement, query⟩ :: rest =>
    (requirement, query.holds postings) :: clausesHold postings rest

end

mutual

/-- The leaves of a query, in order. -/
def lookups : EngineQuery α → List Lookup
  | leaf lookup _ => [lookup]
  | boolean cs => clauseLookups cs

def clauseLookups : List (Clause (EngineQuery α)) → List Lookup
  | [] => []
  | ⟨_, query⟩ :: rest => query.lookups ++ clauseLookups rest

end

end EngineQuery

end HelpQuery
