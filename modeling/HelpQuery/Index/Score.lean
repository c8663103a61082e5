import HelpQuery.Index.Relevance

/-!
# Scores

The scores of the clauses that hold add up to that of their group, and a document is found if its
score is above the least finite value.  Sums are rounded at every step, so their order matters.  It
depends on the segment that is searched:

    required clauses: by cost, the first two added up first, then the sum of the others
    optional clauses: the first that the segment has documents of, then the others from the last one

`arrange` brings the clauses into this order, and `score?` follows it.
-/

namespace HelpQuery

/-! ## Costs -/

/-- The cost of a leaf in a segment: the number of documents it holds of, and for a phrase the least
cost of its terms. -/
def Lookup.cost (segment : List StoredDocument) : Lookup → Nat
  | phrase field terms => ((terms.map (documentCount segment field)).min?).getD 0
  | lookup => segment.countP fun d => lookup.holds d.postings

/-- The cost of a group: the least one of its required clauses or, without any, that of its only
optional one; a union costs nothing. -/
def groupCost (clauses : List (Requirement × Nat)) : Nat :=
  let costs (r : Requirement) := (clauses.filter (·.1 = r)).map (·.2)
  match (costs .required).min?, costs .optional with
  | some cost, _ => cost
  | none, [cost] => cost
  | none, _ => 0

namespace EngineQuery

variable {α : Type}

mutual

/-- The cost of a query in a segment. -/
def cost (segment : List StoredDocument) : EngineQuery α → Nat
  | leaf lookup _ => lookup.cost segment
  | boolean cs => groupCost (clauseCosts segment cs)

def clauseCosts (segment : List StoredDocument) :
    List (Clause (EngineQuery α)) → List (Requirement × Nat)
  | [] => []
  | ⟨requirement, query⟩ :: rest => (requirement, query.cost segment) :: clauseCosts segment rest

end

/-! ## Order of clauses -/

/-- Clauses by cost; equal costs leave them as they are. -/
def byCost (segment : List StoredDocument) (clauses : List (Clause (EngineQuery α))) :
    List (Clause (EngineQuery α)) :=
  let costs := clauses.map fun c => (c.query.cost segment, c)
  (costs.mergeSort fun a b => a.1 ≤ b.1).map (·.2)

/-- The first clause that a segment has documents of, and then the others, from the last one on;
those before the first have nothing to add, and stay where they are. -/
def fromLast (segment : List StoredDocument) (clauses : List (Clause (EngineQuery α))) :
    List (Clause (EngineQuery α)) :=
  let absent (c : Clause (EngineQuery α)) := !segment.any fun d => c.query.holds d.postings
  match clauses.dropWhile absent with
  | [] => clauses
  | first :: others => clauses.takeWhile absent ++ first :: others.reverse

/-- The clauses of a group in the order in which a segment is searched. -/
def inOrder (segment : List StoredDocument) (clauses : List (Clause (EngineQuery α))) :
    List (Clause (EngineQuery α)) :=
  byCost segment (clauses.filter (·.requirement = .required))
    ++ clauses.filter (·.requirement = .prohibited)
    ++ fromLast segment (clauses.filter (·.requirement = .optional))

mutual

/-- A query with the clauses of all groups in the order in which a segment is searched. -/
def arrange (segment : List StoredDocument) : EngineQuery α → EngineQuery α
  | leaf lookup weight => leaf lookup weight
  | boolean cs => boolean (inOrder segment (arrangeClauses segment cs))

def arrangeClauses (segment : List StoredDocument) :
    List (Clause (EngineQuery α)) → List (Clause (EngineQuery α))
  | [] => []
  | ⟨requirement, query⟩ :: rest =>
    ⟨requirement, query.arrange segment⟩ :: arrangeClauses segment rest

end

end EngineQuery

/-! ## Sums -/

/-- The sum of some scores, added one after the other. -/
def scoreSum (scores : List Single) : Single := scores.foldl (· + ·) (.ofNat 0)

/-- The sum of the scores of required clauses. -/
def requiredSum : List Single → Single
  | first :: second :: others => first + second + scoreSum others
  | scores => scoreSum scores

/-- The score of a group, given the scores of the clauses that hold; what is prohibited adds
nothing. -/
def groupScore? (clauses : List (Requirement × Option Single)) : Option Single :=
  let scores (r : Requirement) := (clauses.filter (·.1 = r)).filterMap (·.2)
  if groupHolds (clauses.map fun c => (c.1, c.2.isSome)) then
    some (requiredSum (scores .required) + scoreSum (scores .optional))
  else none

namespace EngineQuery

mutual

/-- The score of a document, given by its postings, if the query holds of it. -/
def score? (postings : String → Postings) : EngineQuery LeafWeight → Option Single
  | leaf lookup weight =>
    if lookup.holds postings then some (weight.score lookup postings) else none
  | boolean cs => groupScore? (clauseScores postings cs)

def clauseScores (postings : String → Postings) :
    List (Clause (EngineQuery LeafWeight)) → List (Requirement × Option Single)
  | [] => []
  | ⟨requirement, query⟩ :: rest =>
    (requirement, query.score? postings) :: clauseScores postings rest

end

mutual

/-- A query has a score in the documents that it holds of. -/
theorem isSome_score? (postings : String → Postings) (q : EngineQuery LeafWeight) :
    (q.score? postings).isSome = q.holds postings := by
  cases q with
  | leaf lookup weight => unfold score? holds; split <;> simp_all
  | boolean cs =>
    unfold score? holds groupScore?
    rw [map_clauseScores postings cs]
    split <;> simp_all

theorem map_clauseScores (postings : String → Postings)
    (cs : List (Clause (EngineQuery LeafWeight))) :
    ((clauseScores postings cs).map fun c => (c.1, c.2.isSome)) = clausesHold postings cs := by
  cases cs with
  | nil => rfl
  | cons c rest =>
    unfold clauseScores clausesHold
    simp [isSome_score? postings c.query, map_clauseScores postings rest]

end

/-- The documents of a segment with a score that counts, each one looked at for itself. -/
def scan (segment : List StoredDocument) (q : EngineQuery LeafWeight) : List StoredDocument :=
  let arranged := q.arrange segment
  segment.filter fun d => (arranged.score? d.postings).any scoreCounts

end EngineQuery

end HelpQuery
