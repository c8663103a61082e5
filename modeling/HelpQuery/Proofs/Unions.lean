import HelpQuery.Proofs.Cursors
import HelpQuery.Proofs.Fallible

/-!
# Documents that queries find

A union of terms is searched with cursors and every other query document by document.  Both find
documents that the query holds of, each once, and above a floor all of them:

    q.search segment <+ segment.filter (q.holds ·.postings)                    (search_sublist)
    q.search segment = segment.filter (q.holds ·.postings)   above a floor     (search_eq_filter)
-/

namespace HelpQuery

/-! ## Queries that are unions -/

namespace EngineQuery

theorem groupHolds_single {r : Requirement} (hr : r ≠ .prohibited) (b : Bool) :
    groupHolds [(r, b)] = b := by
  cases r with
  | required => cases b <;> rfl
  | prohibited => exact absurd rfl hr
  | optional => cases b <;> rfl

/-- A group of optional clauses holds if one of them does. -/
theorem groupHolds_optional {xs : List (Requirement × Bool)} (h : ∀ x ∈ xs, x.1 = .optional) :
    groupHolds xs = xs.any (·.2) := by
  have hnot : ∀ r : Requirement, r ≠ .optional → ∀ x ∈ xs, (x.1 == r) = false := fun r hr x hx => by
    rw [h x hx]
    exact beq_false_of_ne hr.symm
  have hrequired : xs.all (fun x => x.1 != .required || x.2) = true :=
    List.all_eq_true.2 fun x hx => by rw [bne, hnot _ (by decide) x hx]; rfl
  have hprohibited : xs.all (fun x => x.1 != .prohibited || !x.2) = true :=
    List.all_eq_true.2 fun x hx => by rw [bne, hnot _ (by decide) x hx]; rfl
  have hnone : xs.any (fun x => x.1 == .required) = false :=
    List.any_eq_false.2 fun x hx => by rw [hnot _ (by decide) x hx]; exact Bool.false_ne_true
  have hoptional : xs.any (fun x => x.1 == .optional && x.2) = xs.any (·.2) := by
    rw [Bool.eq_iff_iff, List.any_eq_true, List.any_eq_true]
    exact exists_congr fun x => and_congr_right fun hx => by rw [h x hx]; rfl
  rw [groupHolds, hrequired, hprohibited, hnone, hoptional]
  rfl

/-- The cursor of a query is that of its only leaf, which holds of the same documents, and of one
of the segment at least. -/
theorem cursor?_eq_some {segment : List StoredDocument} {q : EngineQuery LeafWeight} {c : Cursor}
    (h : q.cursor? segment = some c) :
    ∃ lookup weight, q.leaves = [(lookup, weight)] ∧ c = Cursor.ofTerm segment lookup weight ∧
      (∀ postings, q.holds postings = lookup.holds postings) ∧
      ∃ d ∈ segment, lookup.holds d.postings = true := by
  induction q using induction_clauses with
  | leaf lookup weight =>
    unfold cursor? at h
    split at h
    · next field text weight average hq =>
      cases hq
      simp only [] at h
      split at h
      · next hsome =>
        refine ⟨_, _, rfl, (Option.some.inj h).symm, fun _ => rfl, ?_⟩
        obtain ⟨n, hn⟩ := Option.isSome_iff_exists.1 hsome
        rw [Cursor.document?_eq_head?, Cursor.numbers_ofTerm] at hn
        obtain ⟨d, hd, hholds⟩ := (mem_numbersOf _ _ n).1 (List.mem_of_head? hn)
        exact ⟨d, List.mem_of_getElem? hd, hholds⟩
      · cases h
    · cases h
    · next hq => cases hq
  | boolean cs ih =>
    rw [cursor?] at h
    unfold soleCursor? at h
    split at h
    · next r query =>
      split at h
      · cases h
      · next hr =>
        obtain ⟨lookup, weight, hleaves, hc, hholds, hsome⟩ := ih _ (List.mem_singleton.2 rfl) h
        refine ⟨lookup, weight, ?_, hc, fun postings => ?_, hsome⟩
        · rw [leaves, clauseLeaves, clauseLeaves, List.append_nil, hleaves]
        · rw [holds, clausesHold, clausesHold, groupHolds_single hr, hholds]
    · cases h

/-- The cursors of a union are those of its clauses, which are all optional. -/
theorem cursors?_eq_some {segment : List StoredDocument} {q : EngineQuery LeafWeight}
    {cursors : List Cursor} (h : q.cursors? segment = some cursors) :
    ∃ cs, q = boolean cs ∧ cursors.length = cs.length ∧
      (∀ c ∈ cs, c.requirement = .optional ∧
        ∃ cursor ∈ cursors, c.query.cursor? segment = some cursor) ∧
      ∀ cursor ∈ cursors, ∃ c ∈ cs, c.query.cursor? segment = some cursor := by
  unfold cursors? at h
  split at h
  · next c more cs =>
    obtain ⟨hlength, hto, hfrom⟩ := mapM_eq_some h
    refine ⟨_, rfl, hlength, fun c hc => ?_, fun cursor hcursor => ?_⟩
    · obtain ⟨cursor, hmem, hsome⟩ := hto c hc
      split at hsome
      · next hoptional => exact ⟨hoptional, cursor, hmem, hsome⟩
      · cases hsome
    · obtain ⟨c, hmem, hsome⟩ := hfrom cursor hcursor
      split at hsome
      · exact ⟨c, hmem, hsome⟩
      · cases hsome
  · cases h

section Union

variable {segment : List StoredDocument} {q : EngineQuery LeafWeight} {cursors : List Cursor}
  (h : q.cursors? segment = some cursors)

include h

theorem pairwise_numbers_of_cursors? : ∀ c ∈ cursors, c.numbers.Pairwise (· < ·) := by
  obtain ⟨cs, -, -, -, hfrom⟩ := cursors?_eq_some h
  intro cursor hcursor
  obtain ⟨c, -, hsome⟩ := hfrom cursor hcursor
  obtain ⟨lookup, weight, -, rfl, -⟩ := cursor?_eq_some hsome
  rw [Cursor.numbers_ofTerm]
  exact pairwise_numbersOf _ _

/-- What is ahead of the cursors of a union are the documents that it holds of. -/
theorem mem_numbersAhead_cursors? (n : Nat) :
    n ∈ numbersAhead cursors ↔ n ∈ numbersOf (q.holds ·.postings) segment := by
  obtain ⟨cs, rfl, -, hto, hfrom⟩ := cursors?_eq_some h
  have hholds : ∀ d : StoredDocument, (boolean cs).holds d.postings = true ↔
      ∃ c ∈ cs, c.query.holds d.postings = true := by
    intro d
    have hoptional : ∀ x ∈ clausesHold d.postings cs, x.1 = .optional := by
      rw [clausesHold_eq_map]
      exact List.forall_mem_map.2 fun c hc => (hto c hc).1
    rw [holds, groupHolds_optional hoptional, clausesHold_eq_map, List.any_map, List.any_eq_true]
    rfl
  have hcursor : ∀ {query : EngineQuery LeafWeight} {cursor : Cursor},
      query.cursor? segment = some cursor →
      (n ∈ cursor.numbers ↔ n ∈ numbersOf (query.holds ·.postings) segment) := by
    intro query cursor hsome
    obtain ⟨lookup, weight, -, rfl, hsame, -⟩ := cursor?_eq_some hsome
    simp only [Cursor.numbers_ofTerm, hsame]
  rw [mem_numbersAhead, mem_numbersOf]
  constructor
  · rintro ⟨cursor, hmem, hn⟩
    obtain ⟨c, hc, hsome⟩ := hfrom cursor hmem
    obtain ⟨d, hd, hc'⟩ := (mem_numbersOf _ _ _).1 ((hcursor hsome).1 hn)
    exact ⟨d, hd, (hholds d).2 ⟨c, hc, hc'⟩⟩
  · rintro ⟨d, hd, hd'⟩
    obtain ⟨c, hc, hc'⟩ := (hholds d).1 hd'
    obtain ⟨-, cursor, hmem, hsome⟩ := hto c hc
    exact ⟨cursor, hmem, (hcursor hsome).2 ((mem_numbersOf _ _ _).2 ⟨d, hd, hc'⟩)⟩

theorem length_cursors?_le : cursors.length ≤ q.leaves.length := by
  obtain ⟨cs, rfl, hlength, hto, -⟩ := cursors?_eq_some h
  rw [hlength, leaves]
  clear hlength h
  induction cs with
  | nil => exact Nat.le_refl 0
  | cons c cs ih =>
    obtain ⟨⟨-, cursor, -, hsome⟩, hcs⟩ := List.forall_mem_cons.1 hto
    obtain ⟨lookup, weight, hleaves, -⟩ := cursor?_eq_some hsome
    rw [clauseLeaves, hleaves, List.length_cons, List.length_append, List.length_singleton]
    have := ih hcs
    omega

end Union

/-! ## Documents of a segment -/

/-- A search finds documents of the segment that the query holds of, each once. -/
theorem search_sublist (segment : List StoredDocument) (q : EngineQuery LeafWeight) :
    (q.search segment).Sublist (segment.filter (q.holds ·.postings)) := by
  unfold search
  split
  · next cursors h =>
    exact findUnion_sublist (pairwise_numbers_of_cursors? h) (mem_numbersAhead_cursors? h)
  · exact q.scan_sublist segment

/-- Where bounds and scores of the leaves that hold are above a floor, it finds all of them. -/
theorem search_eq_filter {size : Nat} {Above : Nat → Single → Prop} (floor : ScoreFloor size Above)
    {segment : List StoredDocument} {q : EngineQuery LeafWeight}
    (hleaves : ∀ d ∈ segment, ∀ leaf ∈ q.leaves, leaf.1.holds d.postings = true →
      Above 1 leaf.2.bound ∧ Above 1 (leaf.2.score leaf.1 d.postings))
    (hsize : q.leaves.length ≤ size) :
    q.search segment = segment.filter (q.holds ·.postings) := by
  unfold search
  split
  · next cursors h =>
    refine findUnion_eq_filter (pairwise_numbers_of_cursors? h) (mem_numbersAhead_cursors? h) floor
      (fun cursor hcursor => ?_) ((length_cursors?_le h).trans hsize)
    obtain ⟨cs, rfl, -, -, hfrom⟩ := cursors?_eq_some h
    obtain ⟨c, hc, hsome⟩ := hfrom cursor hcursor
    obtain ⟨lookup, weight, hsingle, rfl, -, d, hd, hholds⟩ := cursor?_eq_some hsome
    have hleaf : (lookup, weight) ∈ (boolean cs).leaves :=
      (leaves_sublist hc).subset (by rw [hsingle]; exact List.mem_singleton.2 rfl)
    exact Cursor.isAbove_ofTerm floor (hleaves d hd _ hleaf hholds).1
      fun d hd hholds => (hleaves d hd _ hleaf hholds).2
  · exact scan_eq_filter floor (fun d hd leaf hleaf hholds => (hleaves d hd leaf hleaf hholds).2)
      hsize

end EngineQuery

end HelpQuery
