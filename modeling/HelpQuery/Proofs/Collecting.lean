import HelpQuery.Index.BuiltIn
import HelpQuery.Proofs.Unions
import HelpQuery.Proofs.Weights

/-!
# What the built-in engine collects

A query that is no union of terms is run document by document, so just the documents are collected
that it holds of with a score that counts, whatever its boosts are.  Cursors over a union stop early
where bounds do not count, which boosts far below zero can bring about; without them nothing is
missed:

    CountsFit segment.corpus → query.BoostsFit → Engine.builtIn.CollectsAll segment query
-/

namespace HelpQuery

/-- What is collected are documents that the query holds of, each once. -/
theorem sound_builtIn : Engine.builtIn.Sound := by
  intro segment query
  have hsublist := EngineQuery.search_sublist segment.documents (segment.weigh query)
  simp only [Segment.weigh, EngineQuery.holds_map] at hsublist
  exact hsublist

/-! ## Documents looked at one by one -/

section Scan

variable (segment : Segment) (query : EngineQuery Single)

/-- One by one, the documents are found that the query holds of with a score that counts. -/
theorem scan_weigh :
    (segment.weigh query).scan segment.documents = segment.documents.filter fun d =>
      query.holds d.postings && scoreCounts (Engine.builtIn.score segment query d) := by
  refine List.filter_congr fun d _ => ?_
  have hsome := EngineQuery.isSome_score? d.postings
    ((segment.weigh query).arrange segment.documents)
  rw [EngineQuery.holds_arrange, Segment.weigh, EngineQuery.holds_map, ← Segment.weigh] at hsome
  simp only [← hsome, Engine.builtIn]
  cases ((segment.weigh query).arrange segment.documents).score? d.postings <;> simp

theorem collectsAll_of_search_eq
    (h : (segment.weigh query).search segment.documents =
      (segment.weigh query).scan segment.documents) :
    Engine.builtIn.CollectsAll segment query :=
  h.trans (scan_weigh segment query)

/-- Whatever its boosts are, nothing is missed of a query that is no union. -/
theorem collectsAll_of_cursors?_eq_none
    (h : (segment.weigh query).cursors? segment.documents = none) :
    Engine.builtIn.CollectsAll segment query := by
  refine collectsAll_of_search_eq segment query ?_
  rw [EngineQuery.search, h]

/-- Of a single leaf, too, nothing is missed, however far its boost is below zero. -/
theorem collectsAll_leaf (lookup : Lookup) (boost : Single) :
    Engine.builtIn.CollectsAll segment (.leaf lookup boost) :=
  collectsAll_of_cursors?_eq_none segment _ rfl

end Scan

/-! ## Boosts -/

/-- Boosts for which no document is missed: they are finite, and none is negative, or there are not
too many of them and none is far below zero. -/
structure EngineQuery.BoostsFit (query : EngineQuery Single) : Prop where
  finite : ∀ leaf ∈ query.leaves, leaf.2.isFinite = true
  low : (∀ leaf ∈ query.leaves, (Binary.ofNat 0 : Single).le leaf.2 = true) ∨
    query.leaves.length < 2 ^ 24 ∧
      ∀ leaf ∈ query.leaves, (Binary.ofInt (-2 ^ 60) : Single).le leaf.2 = true

namespace Single

theorem atLeast_zero_of_le {boost : Single} (h : (Binary.ofNat 0 : Single).le boost = true) :
    AtLeast 0 boost := by
  have hzero : (Binary.ofNat 0 : Single) = .finite false ⟨0, -149, by decide⟩ := by
    decide +kernel
  rw [hzero] at h
  have hle := atLeast_of_le h
  rwa [signedValue, if_neg Bool.false_ne_true, Magnitude.value, Nat.cast_zero, zero_mul] at hle

/-- A finite value that is not far below zero is negative within bounds, if at all. -/
theorem within_of_le {boost : Single} (hfinite : boost.isFinite = true)
    (h : (Binary.ofInt (-2 ^ 60) : Single).le boost = true) :
    AtLeast 0 boost ∨ Within (2 ^ (60 : ℤ)) boost := by
  have hleast : (Binary.ofInt (-2 ^ 60) : Single) = .finite true ⟨twoPow 23, 37, by decide⟩ := by
    decide +kernel
  rw [hleast] at h
  have hle := atLeast_of_le h
  cases boost with
  | nan => cases hfinite
  | infinite negative => cases hfinite
  | finite negative m =>
    cases negative with
    | false => exact Or.inl m.value_nonneg
    | true =>
      refine Or.inr ⟨true, m, rfl, (neg_le_neg_iff.1 hle).trans ?_⟩
      norm_num [Magnitude.value, twoPow]

end Single

/-! ## Unions -/

section Fitting

variable {segment : Segment} {query : EngineQuery Single} (fit : CountsFit segment.corpus)
  (hcorpus : ∀ d ∈ segment.documents, d ∈ segment.corpus)

include fit hcorpus

/-- Leaves have scores that come from the boosts of the query. -/
theorem scoredBy_weigh {d : StoredDocument} (hd : d ∈ segment.documents) :
    ∀ leaf ∈ (segment.weigh query).leaves, leaf.1.holds d.postings = true →
      ∃ own ∈ query.leaves, ScoredBy own.2 leaf.2.bound ∧
        ScoredBy own.2 (leaf.2.score leaf.1 d.postings) := by
  intro leaf hleaf hholds
  rw [Segment.weigh, EngineQuery.leaves_map] at hleaf
  obtain ⟨⟨lookup, boost⟩, hmem, rfl⟩ := List.mem_map.1 hleaf
  exact ⟨_, hmem, scoredBy_ofBoost fit (hcorpus d hd) hholds segment.schema boost⟩

/-- Where scores stay above a floor, a union is searched as if document by document. -/
theorem search_weigh_eq_scan {size : Nat} {Above : Nat → Single → Prop}
    (floor : ScoreFloor size Above) (hsize : query.leaves.length ≤ size)
    (habove : ∀ leaf ∈ query.leaves, ∀ x, ScoredBy leaf.2 x → Above 1 x) :
    (segment.weigh query).search segment.documents =
      (segment.weigh query).scan segment.documents := by
  have hlength : (segment.weigh query).leaves.length = query.leaves.length := by
    rw [Segment.weigh, EngineQuery.leaves_map, List.length_map]
  have hleaves : ∀ d ∈ segment.documents, ∀ leaf ∈ (segment.weigh query).leaves,
      leaf.1.holds d.postings = true →
        Above 1 leaf.2.bound ∧ Above 1 (leaf.2.score leaf.1 d.postings) := by
    intro d hd leaf hleaf hholds
    obtain ⟨own, hown, hbound, hscore⟩ := scoredBy_weigh fit hcorpus hd leaf hleaf hholds
    exact ⟨habove own hown _ hbound, habove own hown _ hscore⟩
  rw [EngineQuery.search_eq_filter floor hleaves (hlength.trans_le hsize),
    EngineQuery.scan_eq_filter floor (fun d hd leaf hleaf hholds =>
      (hleaves d hd leaf hleaf hholds).2) (hlength.trans_le hsize)]

/-- Nothing is missed if counts and boosts are within their bounds. -/
theorem collectsAll_of_boostsFit (hboosts : query.BoostsFit) :
    Engine.builtIn.CollectsAll segment query := by
  refine collectsAll_of_search_eq segment query ?_
  rcases hboosts.low with hzero | ⟨hcount, hlow⟩
  · refine search_weigh_eq_scan fit hcorpus (Single.scoreFloor_zero query.leaves.length) le_rfl
      fun leaf hleaf x hx => ?_
    exact hx.atLeast_zero (hboosts.finite leaf hleaf) (Single.atLeast_zero_of_le (hzero leaf hleaf))
  · refine search_weigh_eq_scan fit hcorpus Single.scoreFloor_neg (by omega)
      fun leaf hleaf x hx => ?_
    have hfinite := hboosts.finite leaf hleaf
    rw [Nat.cast_one, one_mul]
    rcases Single.within_of_le hfinite (hlow leaf hleaf) with hnonneg | hwithin
    · exact (hx.atLeast_zero hfinite hnonneg).mono (by norm_num)
    · exact (hx.within hwithin).atLeast

end Fitting

end HelpQuery
