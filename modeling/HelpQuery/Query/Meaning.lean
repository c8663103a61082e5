import HelpQuery.Query.Tree

/-!
# The meaning of queries

A document gives for each field its passages, each an ordered list of terms.  A term is found in a
passage that has it, a wildcard in a passage with a term that fits its pattern, and a phrase in a
passage that has its terms next to each other and in order.  A group matches if its required
clauses do, none of its prohibited ones does and, without a required clause, an optional one does.
-/

namespace HelpQuery

/-- The passages of each field. -/
abbrev Document := String → List (List String)

/-- A text fits a pattern in which a question mark stands for any character and a star for any run
of characters, line feeds excepted, and all other characters for themselves. -/
inductive Fits : List Char → List Char → Prop where
  | nil : Fits [] []
  | one {c : Char} {p t : List Char} : c ≠ '\n' → Fits p t → Fits ('?' :: p) (c :: t)
  | done {p t : List Char} : Fits p t → Fits ('*' :: p) t
  | more {c : Char} {p t : List Char} : c ≠ '\n' → Fits ('*' :: p) t → Fits ('*' :: p) (c :: t)
  | self {c : Char} {p t : List Char} : c ≠ '?' → c ≠ '*' → Fits p t → Fits (c :: p) (c :: t)

/-- Whether an atom is found in one of the passages. -/
def Atom.FoundIn (passages : List (List String)) : Atom → Prop
  | term text => ∃ p ∈ passages, text ∈ p
  | wildcard pattern => ∃ p ∈ passages, ∃ t ∈ p, Fits pattern.toList t.toList
  | phrase terms => terms ≠ [] ∧ ∃ p ∈ passages, terms <:+: p

/-- Whether a group matches, given what each of its clauses says. -/
def GroupMatches (clauses : List (Requirement × Prop)) : Prop :=
  (∀ c ∈ clauses, c.1 = .required → c.2) ∧
  (∀ c ∈ clauses, c.1 = .prohibited → ¬ c.2) ∧
  ((∃ c ∈ clauses, c.1 = .required) ∨ ∃ c ∈ clauses, c.1 = .optional ∧ c.2)

namespace Tree

mutual

/-- Whether a document matches a query. -/
def Matches (d : Document) : Tree → Prop
  | leaf field atom _ => atom.FoundIn (d field)
  | boolean cs => GroupMatches (clauseMatches d cs)

/-- The clauses of a group with whether the document matches them. -/
def clauseMatches (d : Document) : List (Clause Tree) → List (Requirement × Prop)
  | [] => []
  | ⟨requirement, query⟩ :: rest => (requirement, query.Matches d) :: clauseMatches d rest

end

end Tree

end HelpQuery
