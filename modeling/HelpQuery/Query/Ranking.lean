import HelpQuery.Query.Build

/-!
# Ranking of plain word queries

A query of nothing but words gets, for each field, an optional phrase of all its terms, so that
documents with the words next to each other rank first.  The phrase's boost is the field's boost
times a factor.
-/

namespace HelpQuery

/-- The usual factor between a field's boost and that of its whole-query phrase. -/
def defaultPhraseFactor : Single := .ofNat 10

/-- The phrase of all terms of a query in one field. -/
def wholePhrase (parts : List Part) (factor : Single) (f : Field) : Tree :=
  .leaf f.name (.phrase (partTerms parts)) (factor * f.boost)

/-- The tree with the whole-query phrases as alternatives, if the query is plain words. -/
def enhance (tree : Tree) (parts : List Part) (fields : FieldSet) (factor : Single) : Tree :=
  if parts ≠ [] ∧ isPlainWordQuery parts then
    Tree.any (tree :: fields.toList.map (wholePhrase parts factor))
  else tree

end HelpQuery
