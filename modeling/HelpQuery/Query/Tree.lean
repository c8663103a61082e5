import HelpQuery.Query.Field
import HelpQuery.Query.Part

/-!
# Query trees

A query is a tree of boolean groups over leaves, each leaf an atom looked for in one field.  A
clause of a group must match, must not match, or may match.
-/

namespace HelpQuery

/-- How a clause takes part in its group. -/
inductive Requirement where
  | required
  | prohibited
  | optional
  deriving DecidableEq, Repr

namespace Requirement

/-- The mark before a clause in a query string. -/
def mark : Requirement → String
  | required => "+"
  | prohibited => "-"
  | optional => ""

end Requirement

/-- A query with its requirement in the group. -/
structure Clause (α : Type) where
  requirement : Requirement
  query : α

/-- A query: a leaf or a boolean group. -/
inductive Tree where
  | leaf (field : String) (atom : Atom) (boost : Single)
  | boolean (clauses : List (Clause Tree))

namespace Tree

/-- Alternatives, any one of which may match. -/
def any (queries : List Tree) : Tree := boolean (queries.map (⟨.optional, ·⟩))

/-- The clauses of a group; a leaf has none. -/
def clauses : Tree → List (Clause Tree)
  | leaf .. => []
  | boolean cs => cs

def isGroup : Tree → Bool
  | leaf .. => false
  | boolean _ => true

mutual

/-- The number of leaves. -/
def leafCount : Tree → Nat
  | leaf .. => 1
  | boolean cs => leafCountOf cs

/-- The number of leaves below a list of clauses. -/
def leafCountOf : List (Clause Tree) → Nat
  | [] => 0
  | ⟨_, query⟩ :: rest => query.leafCount + leafCountOf rest

end

end Tree

end HelpQuery
