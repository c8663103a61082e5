import HelpQuery.Index.Automaton
import HelpQuery.Index.Union

/-!
# The built-in engine

The engine that takes regular expressions with small automata, scores documents by the relevance of
the terms they have, and runs over unions of terms with cursors.
-/

namespace HelpQuery

/-- A query with the weights that its leaves have in a segment. -/
def Segment.weigh (segment : Segment) (query : EngineQuery Single) : EngineQuery LeafWeight :=
  query.map (LeafWeight.ofBoost segment.schema segment.corpus)

/-- A document that a query does not hold of has the least finite score, which does not count. -/
def Engine.builtIn : Engine where
  accepts := regexAccepted
  score segment query d :=
    (((segment.weigh query).arrange segment.documents).score? d.postings).getD (-Single.greatest)
  collect segment query := (segment.weigh query).search segment.documents

end HelpQuery
