import HelpQuery.Query.Tree

/-!
# Engine queries

What an engine runs: groups of clauses over weighted leaves.  The leaves of a compiled tree have its
boosts for weights; an index turns them into what scores are computed from.
-/

namespace HelpQuery

/-- What a leaf of an engine query looks for. -/
inductive Lookup where
  | term (field text : String)
  | phrase (field : String) (terms : List String)
  | regex (field regex : String)
  | nothing
  deriving DecidableEq, Repr

/-- A query with weights of some type at its leaves. -/
inductive EngineQuery (α : Type) where
  | leaf (lookup : Lookup) (weight : α)
  | boolean (clauses : List (Clause (EngineQuery α)))

namespace EngineQuery

variable {α β : Type}

mutual

/-- The same query with other weights. -/
def map (f : Lookup → α → β) : EngineQuery α → EngineQuery β
  | leaf lookup weight => leaf lookup (f lookup weight)
  | boolean cs => boolean (mapClauses f cs)

def mapClauses (f : Lookup → α → β) : List (Clause (EngineQuery α)) → List (Clause (EngineQuery β))
  | [] => []
  | ⟨requirement, query⟩ :: rest => ⟨requirement, query.map f⟩ :: mapClauses f rest

end

end EngineQuery

end HelpQuery
