import HelpQuery.Index.Score
import Mathlib.Algebra.GroupWithZero.Nat
import Mathlib.Data.List.Perm.Basic

/-!
# Arranged clauses

A group holds in whatever order its clauses are, so a segment that is searched with the clauses in
the order of their costs is searched for the same documents.  Where a score is missed is told by the
scores alone: if those of the leaves stay above a floor that sums do not fall through, then all
documents are found that the query holds of.

    (q.arrange segment).holds = q.holds                                        (holds_arrange)
    q.scan segment <+ segment.filter (q.holds ·.postings)                      (scan_sublist)
    q.scan segment = segment.filter (q.holds ·.postings)   above a floor       (scan_eq_filter)
-/

namespace HelpQuery

namespace EngineQuery

variable {α : Type}

/-! ## Induction over queries -/

mutual

/-- A query is a leaf, or a group of queries of which the property may be assumed. -/
@[elab_as_elim]
theorem induction_clauses {motive : EngineQuery α → Prop}
    (leaf : ∀ lookup weight, motive (.leaf lookup weight))
    (boolean : ∀ cs, (∀ c ∈ cs, motive c.query) → motive (.boolean cs)) (q : EngineQuery α) :
    motive q := by
  match q with
  | .leaf lookup weight => exact leaf lookup weight
  | .boolean cs => exact boolean cs (forall_clauses leaf boolean cs)

theorem forall_clauses {motive : EngineQuery α → Prop}
    (leaf : ∀ lookup weight, motive (.leaf lookup weight))
    (boolean : ∀ cs, (∀ c ∈ cs, motive c.query) → motive (.boolean cs))
    (cs : List (Clause (EngineQuery α))) : ∀ c ∈ cs, motive c.query := by
  match cs with
  | [] => simp
  | ⟨_, query⟩ :: rest =>
    exact List.forall_mem_cons.2
      ⟨induction_clauses leaf boolean query, forall_clauses leaf boolean rest⟩

end

theorem clausesHold_eq_map (postings : String → Postings)
    (cs : List (Clause (EngineQuery α))) :
    clausesHold postings cs = cs.map fun c => (c.requirement, c.query.holds postings) := by
  induction cs with
  | nil => rfl
  | cons c cs ih => rw [clausesHold, ih, List.map_cons]

theorem clauseScores_eq_map (postings : String → Postings)
    (cs : List (Clause (EngineQuery LeafWeight))) :
    clauseScores postings cs = cs.map fun c => (c.requirement, c.query.score? postings) := by
  induction cs with
  | nil => rfl
  | cons c cs ih => rw [clauseScores, ih, List.map_cons]

theorem arrangeClauses_eq_map (segment : List StoredDocument)
    (cs : List (Clause (EngineQuery α))) :
    arrangeClauses segment cs = cs.map fun c => ⟨c.requirement, c.query.arrange segment⟩ := by
  induction cs with
  | nil => rfl
  | cons c cs ih => rw [arrangeClauses, ih, List.map_cons]

/-! ## Leaves -/

mutual

/-- The leaves of a query with their weights, in order. -/
def leaves : EngineQuery α → List (Lookup × α)
  | leaf lookup weight => [(lookup, weight)]
  | boolean cs => clauseLeaves cs

/-- The leaves of the queries of clauses. -/
def clauseLeaves : List (Clause (EngineQuery α)) → List (Lookup × α)
  | [] => []
  | ⟨_, query⟩ :: rest => query.leaves ++ clauseLeaves rest

end

theorem clauseLeaves_eq_flatMap (cs : List (Clause (EngineQuery α))) :
    clauseLeaves cs = cs.flatMap fun c => c.query.leaves := by
  induction cs with
  | nil => rfl
  | cons c cs ih => rw [clauseLeaves, ih, List.flatMap_cons]

theorem leaves_sublist {cs : List (Clause (EngineQuery α))} {c : Clause (EngineQuery α)}
    (h : c ∈ cs) : c.query.leaves.Sublist (clauseLeaves cs) := by
  rw [clauseLeaves_eq_flatMap]
  exact List.sublist_flatten_of_mem (List.mem_map_of_mem h)

/-! ## Other weights -/

section Weights

variable {β : Type}

mutual

theorem leaves_map (f : Lookup → α → β) (q : EngineQuery α) :
    (q.map f).leaves = q.leaves.map fun leaf => (leaf.1, f leaf.1 leaf.2) := by
  match q with
  | leaf lookup weight => rfl
  | boolean cs => rw [map, leaves, leaves, clauseLeaves_map f cs]

theorem clauseLeaves_map (f : Lookup → α → β) (cs : List (Clause (EngineQuery α))) :
    clauseLeaves (mapClauses f cs) =
      (clauseLeaves cs).map fun leaf => (leaf.1, f leaf.1 leaf.2) := by
  match cs with
  | [] => rfl
  | ⟨_, query⟩ :: rest =>
    rw [mapClauses, clauseLeaves, clauseLeaves, List.map_append, leaves_map f query,
      clauseLeaves_map f rest]

end

mutual

theorem holds_map (f : Lookup → α → β) (postings : String → Postings)
    (q : EngineQuery α) : (q.map f).holds postings = q.holds postings := by
  match q with
  | leaf lookup weight => rfl
  | boolean cs => rw [map, holds, holds, clausesHold_mapClauses f postings cs]

theorem clausesHold_mapClauses (f : Lookup → α → β) (postings : String → Postings)
    (cs : List (Clause (EngineQuery α))) :
    clausesHold postings (mapClauses f cs) = clausesHold postings cs := by
  match cs with
  | [] => rfl
  | ⟨_, query⟩ :: rest =>
    rw [mapClauses, clausesHold, clausesHold, holds_map f postings query,
      clausesHold_mapClauses f postings rest]

end

end Weights

/-! ## The order of clauses -/

theorem groupHolds_perm {xs ys : List (Requirement × Bool)} (h : xs.Perm ys) :
    groupHolds xs = groupHolds ys := by
  unfold groupHolds
  rw [h.all_eq, h.all_eq, h.any_eq, h.any_eq]

section Order

variable (segment : List StoredDocument) (cs : List (Clause (EngineQuery α)))

theorem byCost_perm : (byCost segment cs).Perm cs := by
  have hsorted := List.mergeSort_perm (cs.map fun c => (c.query.cost segment, c))
    fun a b => a.1 ≤ b.1
  have hmap := hsorted.map Prod.snd
  rw [List.map_map] at hmap
  simpa [byCost, Function.comp_def] using hmap

theorem fromLast_perm : (fromLast segment cs).Perm cs := by
  unfold fromLast
  simp only []
  generalize (fun c : Clause (EngineQuery α) =>
    !segment.any fun d => c.query.holds d.postings) = absent
  split
  · exact .refl _
  · next first others hdrop =>
    have hsplit := @List.takeWhile_append_dropWhile _ absent cs
    rw [hdrop] at hsplit
    conv_rhs => rw [← hsplit]
    exact ((List.reverse_perm others).cons first).append_left _

/-- The clauses of each requirement one after the other are all clauses. -/
theorem perm_requirements :
    (cs.filter (·.requirement = .required) ++ cs.filter (·.requirement = .prohibited) ++
      cs.filter (·.requirement = .optional)).Perm cs := by
  induction cs with
  | nil => exact .refl _
  | cons c cs ih =>
    obtain ⟨requirement, query⟩ := c
    cases requirement with
    | required => simpa using ih
    | prohibited =>
      refine .trans ?_ (ih.cons _)
      simp
    | optional =>
      refine .trans ?_ (ih.cons _)
      exact List.perm_middle

theorem inOrder_perm : (inOrder segment cs).Perm cs :=
  (((byCost_perm segment _).append_right _).append (fromLast_perm segment _)).trans
    (perm_requirements cs)

end Order

/-- The order of the clauses is nothing to the documents. -/
theorem holds_arrange (segment : List StoredDocument) (postings : String → Postings)
    (q : EngineQuery α) : (q.arrange segment).holds postings = q.holds postings := by
  induction q using induction_clauses with
  | leaf lookup weight => rfl
  | boolean cs ih =>
    rw [arrange, holds, holds, clausesHold_eq_map, clausesHold_eq_map,
      groupHolds_perm ((inOrder_perm segment _).map _), arrangeClauses_eq_map, List.map_map]
    congr 1
    exact List.map_congr_left fun c hc => Prod.ext rfl (ih c hc)

theorem leaves_arrange_perm (segment : List StoredDocument) (q : EngineQuery α) :
    (q.arrange segment).leaves.Perm q.leaves := by
  induction q using induction_clauses with
  | leaf lookup weight => exact .refl _
  | boolean cs ih =>
    rw [arrange, leaves, leaves, clauseLeaves_eq_flatMap, clauseLeaves_eq_flatMap]
    refine ((inOrder_perm segment _).flatMap_right _).trans ?_
    rw [arrangeClauses_eq_map, List.flatMap_map]
    exact List.Perm.flatMap_left cs ih

end EngineQuery

/-! ## Floors -/

/-- What the scores of queries stay above, by their numbers of leaves: sums do not fall through it,
and above it scores count. -/
structure ScoreFloor (size : Nat) (Above : Nat → Single → Prop) : Prop where
  zero : Above 0 (.ofNat 0)
  add {i j : Nat} {x y : Single} : Above i x → Above j y → i + j ≤ size → Above (i + j) (x + y)
  mono {i j : Nat} {x : Single} : Above i x → i ≤ j → Above j x
  counts {i : Nat} {x : Single} : Above i x → i ≤ size → scoreCounts x = true

namespace ScoreFloor

variable {size : Nat} {Above : Nat → Single → Prop} (floor : ScoreFloor size Above)

include floor

theorem foldl {ps : List (Nat × Single)} (h : ∀ p ∈ ps, Above p.1 p.2) : ∀ {n : Nat} {x : Single},
    Above n x → n + (ps.map Prod.fst).sum ≤ size →
      Above (n + (ps.map Prod.fst).sum) ((ps.map Prod.snd).foldl (· + ·) x) := by
  induction ps with
  | nil => exact fun hx _ => hx
  | cons p ps ih =>
    intro n x hx hsize
    obtain ⟨hp, hps⟩ := List.forall_mem_cons.1 h
    rw [List.map_cons, List.sum_cons, ← Nat.add_assoc] at hsize ⊢
    exact ih hps (floor.add hx hp (by omega)) hsize

theorem scoreSum {ps : List (Nat × Single)} (h : ∀ p ∈ ps, Above p.1 p.2)
    (hsize : (ps.map Prod.fst).sum ≤ size) :
    Above (ps.map Prod.fst).sum (scoreSum (ps.map Prod.snd)) := by
  have hfold := floor.foldl h floor.zero (by omega)
  rwa [Nat.zero_add] at hfold

theorem requiredSum {ps : List (Nat × Single)} (h : ∀ p ∈ ps, Above p.1 p.2)
    (hsize : (ps.map Prod.fst).sum ≤ size) :
    Above (ps.map Prod.fst).sum (requiredSum (ps.map Prod.snd)) := by
  match ps with
  | [] => exact floor.scoreSum h hsize
  | [p] => exact floor.scoreSum h hsize
  | p :: q :: others =>
    obtain ⟨hp, hq, hothers⟩ := by simpa only [List.forall_mem_cons] using h
    simp only [List.map_cons, List.sum_cons, ← Nat.add_assoc] at hsize ⊢
    exact floor.add (floor.add hp hq (by omega)) (floor.scoreSum hothers (by omega)) hsize

/-- A sum of scores of single leaves counts. -/
theorem counts_scoreSum {xs : List Single} (h : ∀ x ∈ xs, Above 1 x) (hsize : xs.length ≤ size) :
    scoreCounts (HelpQuery.scoreSum xs) = true := by
  have hsum : ((xs.map (1, ·)).map Prod.fst).sum = xs.length := by simp [Function.comp_def]
  have hall : ∀ p ∈ xs.map (1, ·), Above p.1 p.2 := by simpa using h
  have habove := floor.scoreSum hall (by omega)
  rw [hsum, List.map_map, Function.comp_def, List.map_id'] at habove
  exact floor.counts habove hsize

end ScoreFloor

/-! ## Scores of queries -/

namespace EngineQuery

/-- The score of a clause with the number of its leaves. -/
def sizedScore? (postings : String → Postings) (c : Clause (EngineQuery LeafWeight)) :
    Option (Nat × Single) :=
  (c.query.score? postings).map (c.query.leaves.length, ·)

section Scores

variable (postings : String → Postings) (cs : List (Clause (EngineQuery LeafWeight)))

theorem scores_eq_map (r : Requirement) :
    ((clauseScores postings cs).filter (·.1 = r)).filterMap (·.2) =
      ((cs.filter (·.requirement = r)).filterMap (sizedScore? postings)).map Prod.snd := by
  rw [clauseScores_eq_map, List.filter_map, List.filterMap_map, List.map_filterMap]
  simp [sizedScore?, Function.comp_def]

/-- What adds to the score of a group has no more leaves than the group. -/
theorem sum_sizes_le :
    (((cs.filter (·.requirement = .required)).filterMap (sizedScore? postings)).map Prod.fst).sum +
        (((cs.filter (·.requirement = .optional)).filterMap (sizedScore? postings)).map
          Prod.fst).sum ≤
      (clauseLeaves cs).length := by
  induction cs with
  | nil => exact Nat.le_refl 0
  | cons c cs ih =>
    obtain ⟨requirement, query⟩ := c
    rw [clauseLeaves, List.length_append]
    cases requirement <;> cases hscore : query.score? postings <;>
      simp [sizedScore?, hscore] at ih ⊢ <;> omega

end Scores

section Floors

variable {size : Nat} {Above : Nat → Single → Prop} (floor : ScoreFloor size Above)

include floor

/-- The score of a query is above the floor if those of its leaves are. -/
theorem above_of_score? {postings : String → Postings} {q : EngineQuery LeafWeight}
    (hleaves : ∀ leaf ∈ q.leaves, leaf.1.holds postings = true →
      Above 1 (leaf.2.score leaf.1 postings))
    (hsize : q.leaves.length ≤ size) {x : Single} (hscore : q.score? postings = some x) :
    Above q.leaves.length x := by
  induction q using induction_clauses generalizing x with
  | leaf lookup weight =>
    rw [score?] at hscore
    split at hscore
    · next hholds =>
      obtain rfl := Option.some.inj hscore
      exact hleaves _ (List.mem_singleton.2 rfl) hholds
    · cases hscore
  | boolean cs ih =>
    rw [leaves] at hleaves hsize ⊢
    have hclauses : ∀ r, ∀ p ∈ (cs.filter (·.requirement = r)).filterMap (sizedScore? postings),
        Above p.1 p.2 := by
      intro r p hp
      obtain ⟨c, hc, hp⟩ := List.mem_filterMap.1 hp
      obtain ⟨y, hy, rfl⟩ := Option.map_eq_some_iff.1 hp
      have hmem := List.mem_of_mem_filter hc
      have hsub := leaves_sublist hmem
      exact ih c hmem (fun leaf hleaf => hleaves leaf (hsub.subset hleaf))
        (Nat.le_trans hsub.length_le hsize) hy
    have hsum := sum_sizes_le postings cs
    rw [score?, groupScore?] at hscore
    split at hscore
    · obtain rfl := Option.some.inj hscore
      simp only [scores_eq_map]
      exact floor.mono (floor.add (floor.requiredSum (hclauses .required) (by omega))
        (floor.scoreSum (hclauses .optional) (by omega)) (by omega)) hsum
    · cases hscore

end Floors

/-! ## Documents of a segment -/

theorem scan_sublist (segment : List StoredDocument) (q : EngineQuery LeafWeight) :
    (q.scan segment).Sublist (segment.filter (q.holds ·.postings)) := by
  refine List.monotone_filter_right segment fun d h => ?_
  have hsome : ((q.arrange segment).score? d.postings).isSome = true := by
    cases hscore : (q.arrange segment).score? d.postings with
    | none => simp [hscore] at h
    | some x => rfl
  rwa [isSome_score?, holds_arrange] at hsome

/-- Where the scores of the leaves are above a floor, no document is missed. -/
theorem scan_eq_filter {size : Nat} {Above : Nat → Single → Prop} (floor : ScoreFloor size Above)
    {segment : List StoredDocument} {q : EngineQuery LeafWeight}
    (hleaves : ∀ d ∈ segment, ∀ leaf ∈ q.leaves, leaf.1.holds d.postings = true →
      Above 1 (leaf.2.score leaf.1 d.postings))
    (hsize : q.leaves.length ≤ size) :
    q.scan segment = segment.filter (q.holds ·.postings) := by
  refine List.filter_congr fun d hd => ?_
  have hperm := q.leaves_arrange_perm segment
  have hlength := hperm.length_eq
  rw [← holds_arrange segment, ← isSome_score?]
  cases hscore : (q.arrange segment).score? d.postings with
  | none => rfl
  | some x =>
    have habove := above_of_score? floor
      (fun leaf hleaf => hleaves d hd leaf (hperm.mem_iff.1 hleaf))
      (by omega) hscore
    simpa using floor.counts habove (by omega)

end EngineQuery

end HelpQuery
