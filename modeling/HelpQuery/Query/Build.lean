import HelpQuery.Query.Tree

/-!
# Building the tree of a query

OR binds weakest: the parts are cut into groups at every OR, and each group becomes a boolean query
of its own.  Inside a group AND and NOT modify the next atom only: an atom is prohibited if the
last operator before it, since the previous atom, is NOT.  A group of nothing but prohibited atoms
cannot be searched and is dropped.
-/

namespace HelpQuery

/-- An atom and whether it is negated. -/
structure SignedAtom where
  negated : Bool
  atom : Atom
  deriving DecidableEq, Repr

/-- The atoms of a group with their signs; `negated` is the sign the next atom gets. -/
def signedAtoms (negated : Bool) : List Part → List SignedAtom
  | [] => []
  | .operator .and :: rest => signedAtoms false rest
  | .operator .not :: rest => signedAtoms true rest
  | .operator .or :: rest => signedAtoms negated rest
  | .atom a :: rest => ⟨negated, a⟩ :: signedAtoms false rest

namespace FieldSet

/-- The query for an atom in any of the fields; a single field needs no group. -/
def query (fields : FieldSet) (a : Atom) : Tree :=
  match fields.toList.map fun f => Tree.leaf f.name a f.boost with
  | [leaf] => leaf
  | leaves => Tree.any leaves

end FieldSet

/-- The query of one group, if it has an atom that is not negated. -/
def buildGroup (fields : FieldSet) (parts : List Part) : Option Tree :=
  let atoms := signedAtoms false parts
  if atoms.any (! ·.negated) then
    some <| .boolean <| atoms.map fun s =>
      ⟨if s.negated then .prohibited else .required, fields.query s.atom⟩
  else none

/-- The groups between the ORs. -/
def orGroups (parts : List Part) : List (List Part) :=
  segments (· == .operator .or) parts

/-- The query of all groups: none, the only one that can be searched, or any of several. -/
def build (fields : FieldSet) (parts : List Part) : Option Tree :=
  match (orGroups parts).filterMap (buildGroup fields) with
  | [] => none
  | [tree] => some tree
  | trees => some (Tree.any trees)

end HelpQuery
