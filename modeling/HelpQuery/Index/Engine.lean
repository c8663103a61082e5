import HelpQuery.Index.Matching
import HelpQuery.Index.Schema

/-!
# Engines

What is left to an engine: which regular expressions it can take, how it scores documents, and which
of those that a query holds of it collects.  A tree is compiled for an engine to a query with one
leaf for each of its leaves:

    (leaf field (phrase [text]) boost).compile E s = .ok (.leaf (.term field text) boost)

A phrase of one term is that term, and a phrase of none matches nothing.
-/

namespace HelpQuery

/-- A segment of an index, with the schema and the documents of all segments: scores depend on
them. -/
structure Segment where
  schema : Schema
  corpus : List StoredDocument
  documents : List StoredDocument

structure Engine where
  /-- Whether the automaton of a regular expression can be built. -/
  accepts : String → Bool
  /-- The score of a document of a segment for a query that holds of it. -/
  score : Segment → EngineQuery Single → StoredDocument → Single
  /-- The documents of a segment that are collected, in order. -/
  collect : Segment → EngineQuery Single → List StoredDocument

/-- Whether documents with a score are to be collected: it is above the least finite value. -/
def scoreCounts (score : Single) : Bool := Binary.lt (-Single.greatest) score

namespace Engine

/-- A query holds of the documents that are collected for it, and none is collected twice. -/
def Sound (E : Engine) : Prop :=
  ∀ segment query,
    (E.collect segment query).Sublist (segment.documents.filter (query.holds ·.postings))

/-- All documents of a segment are collected that the query holds of with a score that counts, and
no others. -/
def CollectsAll (E : Engine) (segment : Segment) (query : EngineQuery Single) : Prop :=
  E.collect segment query =
    segment.documents.filter fun d =>
      query.holds d.postings && scoreCounts (E.score segment query d)

end Engine

/-! ## Compiling trees -/

/-- What is looked for in a text field for an atom. -/
def Atom.lookup (E : Engine) (field : String) : Atom → Except EngineError Lookup
  | term text => .ok (.term field text)
  | wildcard pattern =>
    if E.accepts (wildcardRegex pattern) then .ok (.regex field (wildcardRegex pattern))
    else .error (.wildcard pattern)
  | phrase [] => .ok .nothing
  | phrase [text] => .ok (.term field text)
  | phrase terms => .ok (.phrase field terms)

namespace Tree

mutual

/-- The engine query of a tree, or the fault of its first leaf that has one. -/
def compile (E : Engine) (s : Schema) : Tree → Except EngineError (EngineQuery Single)
  | leaf field atom boost => do
    discard (s.textField field)
    return .leaf (← atom.lookup E field) boost
  | boolean cs => do return .boolean (← compileClauses E s cs)

def compileClauses (E : Engine) (s : Schema) :
    List (Clause Tree) → Except EngineError (List (Clause (EngineQuery Single)))
  | [] => return []
  | ⟨requirement, query⟩ :: rest => do
    let q ← query.compile E s
    return ⟨requirement, q⟩ :: (← compileClauses E s rest)

end

end Tree

end HelpQuery
