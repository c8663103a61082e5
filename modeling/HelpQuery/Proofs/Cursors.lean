import HelpQuery.Index.Union
import HelpQuery.Proofs.Arrangement
import Mathlib.Data.List.Flatten
import Mathlib.Data.List.Sort
import Mathlib.Data.List.TakeWhile

/-!
# Searching with cursors

A step of a union takes the group of cursors at the least document and moves all of them on, or
just one.  Either way the cursors stay sorted and nothing comes up twice, whatever the scores are;
above a floor no step passes a document over:

    unionHits budget cursors goes up, and is among what is ahead               (unionHits_sound)
    n ∈ numbersAhead cursors → n ∈ unionHits budget cursors   above a floor    (unionHits_complete)
-/

namespace HelpQuery

/-! ## Numbers of documents -/

section Numbers

variable (p : StoredDocument → Bool) (segment : List StoredDocument)

/-- The numbers of the documents of a segment that a condition holds of. -/
def numbersOf : List Nat := (segment.zipIdx.filter (p ·.1)).map (·.2)

theorem mem_numbersOf (n : Nat) :
    n ∈ numbersOf p segment ↔ ∃ d, segment[n]? = some d ∧ p d = true := by
  simp [numbersOf, List.mem_zipIdx_iff_getElem?]

theorem pairwise_numbersOf : (numbersOf p segment).Pairwise (· < ·) := by
  have hsub := (@List.filter_sublist _ (p ·.1) segment.zipIdx).map (·.2)
  rw [List.zipIdx_map_snd] at hsub
  exact List.Pairwise.sublist hsub List.pairwise_lt_range'

theorem filterMap_numbersOf : (numbersOf p segment).filterMap (segment[·]?) = segment.filter p := by
  have hget : ∀ x ∈ segment.zipIdx.filter (p ·.1), segment[x.2]? = some x.1 := fun x hx =>
    List.mem_zipIdx_iff_getElem?.1 (List.mem_of_mem_filter hx)
  have hfirst : segment.filter p = (segment.zipIdx.filter (p ·.1)).map (·.1) := by
    conv_lhs => rw [← List.zipIdx_map_fst 0 segment, List.filter_map]
    rfl
  rw [numbersOf, List.filterMap_map, Function.comp_def, List.filterMap_congr hget, hfirst]
  exact congrFun List.filterMap_eq_map' _

variable {p segment} {ns : List Nat} (hincreasing : ns.Pairwise (· < ·))

include hincreasing

/-- Increasing numbers of such documents give some of them, in order. -/
theorem filterMap_sublist_filter (h : ∀ n ∈ ns, n ∈ numbersOf p segment) :
    (ns.filterMap (segment[·]?)).Sublist (segment.filter p) := by
  have hle : ∀ {ms : List Nat}, ms.Pairwise (· < ·) → ms.Pairwise (· ≤ ·) :=
    List.Pairwise.imp Nat.le_of_lt
  have hnodup : ns.Nodup := hincreasing.imp Nat.ne_of_lt
  have hsub : ns.Sublist (numbersOf p segment) :=
    List.sublist_of_subperm_of_pairwise (List.subperm_of_subset hnodup h) (hle hincreasing)
      (hle (pairwise_numbersOf p segment))
  rw [← filterMap_numbersOf]
  exact hsub.filterMap _

theorem filterMap_eq_filter (h : ∀ n, n ∈ ns ↔ n ∈ numbersOf p segment) :
    ns.filterMap (segment[·]?) = segment.filter p := by
  have hnodup : ∀ {ms : List Nat}, ms.Pairwise (· < ·) → ms.Nodup := List.Pairwise.imp Nat.ne_of_lt
  have hsame : ns = numbersOf p segment :=
    List.Perm.eq_of_pairwise
      (fun a b _ _ hab hba => absurd (Nat.lt_trans hab hba) (Nat.lt_irrefl a)) hincreasing
      (pairwise_numbersOf p segment)
      ((List.perm_ext_iff_of_nodup (hnodup hincreasing)
        (hnodup (pairwise_numbersOf p segment))).2 h)
  rw [hsame, filterMap_numbersOf]

end Numbers

/-! ## Single cursors -/

namespace Cursor

/-- The numbers of the documents ahead of a cursor. -/
def numbers (c : Cursor) : List Nat := c.ahead.map (·.1)

theorem document?_eq_head? (c : Cursor) : c.document? = c.numbers.head? := List.head?_map.symm

@[simp] theorem numbers_advance (c : Cursor) : c.advance.numbers = c.numbers.tail := List.map_tail

theorem numbers_seek (place? : Option Nat) (c : Cursor) :
    (c.seek place?).numbers = c.numbers.dropWhile fun n => place?.all (n < ·) := by
  rw [numbers, numbers, List.dropWhile_map]
  rfl

/-- A cursor is not behind another one. -/
def NotBehind (c d : Cursor) : Prop := c.atMost d = true

instance : DecidableRel NotBehind := fun _ _ => inferInstanceAs (Decidable (_ = _))

theorem notBehind_iff (c d : Cursor) :
    c.NotBehind d ↔ ∀ j ∈ d.numbers.head?, ∃ i ∈ c.numbers.head?, i ≤ j := by
  unfold NotBehind atMost
  rw [document?_eq_head?, document?_eq_head?]
  cases c.numbers.head? <;> cases d.numbers.head? <;> simp

/-- What is ahead of a cursor does not come before a cursor that is not behind it. -/
theorem NotBehind.exists_le {c d : Cursor} (h : c.NotBehind d)
    (hincreasing : d.numbers.Pairwise (· < ·)) {n : Nat} (hn : n ∈ d.numbers) :
    ∃ i ∈ c.numbers.head?, i ≤ n := by
  rw [notBehind_iff] at h
  cases hnumbers : d.numbers with
  | nil =>
    rw [hnumbers] at hn
    cases hn
  | cons j more =>
    rw [hnumbers] at hn hincreasing h
    obtain ⟨i, hi, hij⟩ := h j rfl
    rcases List.mem_cons.1 hn with rfl | hn
    · exact ⟨i, hi, hij⟩
    · exact ⟨i, hi, hij.trans ((List.pairwise_cons.1 hincreasing).1 n hn).le⟩

theorem notBehind_of_le {c d : Cursor} {i : Nat} (hi : c.numbers.head? = some i)
    (h : ∀ j ∈ d.numbers, i ≤ j) : c.NotBehind d :=
  (notBehind_iff c d).2 fun j hj => ⟨i, hi, h j (List.mem_of_head? hj)⟩

instance : IsTrans Cursor NotBehind where
  trans c d e hcd hde := by
    rw [notBehind_iff] at *
    intro k hk
    obtain ⟨j, hj, hjk⟩ := hde k hk
    obtain ⟨i, hi, hij⟩ := hcd j hj
    exact ⟨i, hi, hij.trans hjk⟩

instance : Std.Total NotBehind where
  total c d := by
    unfold NotBehind atMost
    cases c.document? <;> cases d.document? <;> simp [Nat.le_total]

theorem numbers_ofTerm (segment : List StoredDocument) (lookup : Lookup) (weight : LeafWeight) :
    (ofTerm segment lookup weight).numbers = numbersOf (lookup.holds ·.postings) segment := by
  rw [numbers, ofTerm, numbersOf]
  simp only []
  induction segment.zipIdx with
  | nil => rfl
  | cons x rest ih =>
    obtain ⟨d, n⟩ := x
    rw [List.filterMap_cons, List.filter_cons]
    cases lookup.holds d.postings with
    | false => exact ih
    | true => exact congrArg (n :: ·) ih

/-- The scores of a cursor are above a floor. -/
structure IsAbove (Above : Nat → Single → Prop) (c : Cursor) : Prop where
  bound : Above 1 c.bound
  greatest : Above 1 c.greatest
  scores : ∀ p ∈ c.ahead, Above 1 p.2

theorem IsAbove.advance {Above : Nat → Single → Prop} {c : Cursor} (h : c.IsAbove Above) :
    c.advance.IsAbove Above :=
  ⟨h.bound, h.greatest, fun p hp => h.scores p (List.mem_of_mem_tail hp)⟩

theorem isAbove_ofTerm {size : Nat} {Above : Nat → Single → Prop} (floor : ScoreFloor size Above)
    {segment : List StoredDocument} {lookup : Lookup} {weight : LeafWeight}
    (hbound : Above 1 weight.bound)
    (hscore : ∀ d ∈ segment, lookup.holds d.postings = true →
      Above 1 (weight.score lookup d.postings)) :
    (ofTerm segment lookup weight).IsAbove Above := by
  have hscores : ∀ p ∈ (ofTerm segment lookup weight).ahead, Above 1 p.2 := by
    intro p hp
    obtain ⟨⟨d, n⟩, hd, hp⟩ := List.mem_filterMap.1 hp
    simp only [] at hp
    split at hp
    · next hholds =>
      obtain rfl := Option.some.inj hp
      exact hscore d (List.mem_of_getElem? (List.mem_zipIdx_iff_getElem?.1 hd)) hholds
    · cases hp
  refine ⟨hbound, ?_, hscores⟩
  -- The greatest score is that of one of the documents.
  have hgreatest : ∀ (rest : List (Nat × Single)) (x : Single), Above 1 x →
      (∀ p ∈ rest, Above 1 p.2) →
      Above 1 (rest.foldl (fun x p => if x.lt p.2 then p.2 else x) x) := by
    intro rest
    induction rest with
    | nil => exact fun x hx _ => hx
    | cons p rest ih =>
      intro x hx hrest
      obtain ⟨hp, hrest⟩ := List.forall_mem_cons.1 hrest
      rw [List.foldl_cons]
      exact ih _ (by split <;> assumption) hrest
  unfold ofTerm at hscores ⊢
  simp only [] at hscores ⊢
  split
  · exact floor.mono floor.zero (Nat.zero_le 1)
  · next heq =>
    rw [heq] at hscores
    obtain ⟨hfirst, hrest⟩ := List.forall_mem_cons.1 hscores
    exact hgreatest _ _ hfirst hrest

end Cursor

/-! ## Lists of cursors -/

theorem sortCursors_perm (cursors : List Cursor) : (sortCursors cursors).Perm cursors :=
  List.mergeSort_perm cursors _

theorem pairwise_sortCursors (cursors : List Cursor) :
    (sortCursors cursors).Pairwise Cursor.NotBehind := by
  have htrans : ∀ b c d : Cursor, b.atMost c = true → c.atMost d = true → b.atMost d = true :=
    fun _ _ _ => trans_of Cursor.NotBehind
  have htotal : ∀ c d : Cursor, (c.atMost d || d.atMost c) = true := by
    intro c d
    rw [Bool.or_eq_true]
    exact total_of Cursor.NotBehind c d
  exact List.pairwise_mergeSort htrans htotal cursors

theorem insertCursor_eq_orderedInsert (c : Cursor) (cursors : List Cursor) :
    insertCursor c cursors = cursors.orderedInsert Cursor.NotBehind c := by
  rw [List.orderedInsert_eq_take_drop, insertCursor]
  simp [Cursor.NotBehind]

theorem takeGreatest_perm (first : Cursor) (rest : List Cursor) :
    ((takeGreatest first rest).1 :: (takeGreatest first rest).2).Perm (first :: rest) := by
  induction rest generalizing first with
  | nil => exact .refl _
  | cons next rest ih =>
    rw [takeGreatest]
    simp only []
    split
    · exact .refl _
    · exact (List.Perm.swap _ _ _).trans ((ih next).cons first)

theorem dropFinished_perm (cursors : List Cursor) :
    (dropFinished cursors).Perm (cursors.filter fun c => c.document?.isSome) := by
  induction cursors using dropFinished.induct with
  | case1 => rw [dropFinished]; exact .refl _
  | case2 c rest h ih =>
    rw [dropFinished, if_pos h, List.filter_cons, if_pos h]
    exact ih.cons c
  | case3 c rest h hlast =>
    obtain rfl := List.getLast?_eq_none_iff.1 hlast
    rw [dropFinished, if_neg h, List.filter_cons, if_neg h]
    exact .refl _
  | case4 c rest h last hlast ih =>
    have hrest := List.dropLast_append_getLast? last hlast
    rw [dropFinished, if_neg h, List.filter_cons, if_neg h]
    split
    · next hnone => simp [hlast] at hnone
    · next last' hlast' =>
      obtain rfl : last = last' := Option.some.inj (hlast.symm.trans hlast')
      refine ih.trans (List.Perm.filter _ ?_)
      conv_rhs => rw [← hrest]
      exact (List.perm_append_singleton last _).symm

/-- The numbers of the documents ahead of some cursors. -/
def numbersAhead (cursors : List Cursor) : List Nat := cursors.flatMap Cursor.numbers

theorem mem_numbersAhead {cursors : List Cursor} {n : Nat} :
    n ∈ numbersAhead cursors ↔ ∃ c ∈ cursors, n ∈ c.numbers := List.mem_flatMap

theorem numbersAhead_dropFinished_perm (cursors : List Cursor) :
    (numbersAhead (dropFinished cursors)).Perm (numbersAhead cursors) := by
  refine ((dropFinished_perm cursors).flatMap_right _).trans ?_
  induction cursors with
  | nil => exact .refl _
  | cons c rest ih =>
    rw [List.filter_cons]
    split
    · exact ih.append_left _
    · next h =>
      have hnone : c.numbers = [] := by
        simpa [Cursor.document?_eq_head?] using h
      simpa [numbersAhead, hnone] using ih

/-! ## Steps -/

/-- Cursors on their way: they are sorted, and what is ahead of each goes up and does not come
before a number. -/
structure Ready (least : Nat) (cursors : List Cursor) : Prop where
  sorted : cursors.Pairwise Cursor.NotBehind
  increasing : ∀ c ∈ cursors, c.numbers.Pairwise (· < ·)
  least_le : ∀ c ∈ cursors, ∀ n ∈ c.numbers, least ≤ n

section Group

variable (number : Nat) (first : Cursor) (rest : List Cursor)

/-- The cursors behind the first one at the same document. -/
def sameDocument : List Cursor := rest.takeWhile (·.document? = some number)

/-- The cursors beyond a document. -/
def pastDocument : List Cursor := rest.dropWhile (·.document? = some number)

theorem sameDocument_append : sameDocument number rest ++ pastDocument number rest = rest :=
  List.takeWhile_append_dropWhile

theorem group_sublist : (first :: sameDocument number rest).Sublist (first :: rest) :=
  (List.takeWhile_sublist _).cons_cons first

theorem pastDocument_sublist : (pastDocument number rest).Sublist rest := List.dropWhile_sublist _

/-- The cursors after one cursor of the group at a document is moved on. -/
def afterSkip : List Cursor :=
  insertCursor ((takeGreatest first (sameDocument number rest)).1.seek
      ((pastDocument number rest).head?.bind Cursor.document?))
    ((takeGreatest first (sameDocument number rest)).2 ++ pastDocument number rest)

/-- The cursors after the whole group is moved on. -/
def afterGroup : List Cursor :=
  sortCursors <| dropFinished <|
    (first :: sameDocument number rest).map Cursor.advance ++ pastDocument number rest

variable {number first rest}

/-- A search ends, or it moves a cursor on if the greatest scores of the group do not count
together, or it moves the group on and may have found its document. -/
theorem unionHits_cases (budget : Nat) (rest : List Cursor)
    (hfirst : first.document? = some number) :
    (scoreCounts first.bound = false ∧ unionHits (budget + 1) (first :: rest) = []) ∨
    (scoreCounts (scoreSum ((first :: sameDocument number rest).map Cursor.greatest)) = false ∧
      unionHits (budget + 1) (first :: rest) = unionHits budget (afterSkip number first rest)) ∨
    ∃ found, (scoreCounts (scoreSum ((first :: sameDocument number rest).filterMap
          Cursor.score?)) = true ↔ found = [number]) ∧ (found = [] ∨ found = [number]) ∧
      unionHits (budget + 1) (first :: rest) =
        found ++ unionHits budget (afterGroup number first rest) := by
  rw [unionHits]
  simp only [hfirst]
  split
  · next hbound => exact Or.inl ⟨by simpa using hbound, rfl⟩
  · refine Or.inr ?_
    split
    · next hgreatest =>
      refine Or.inl ⟨?_, rfl⟩
      rw [scoreCounts, Binary.lt]
      simp only [sameDocument, Bool.and_eq_false_iff, Bool.not_eq_false']
      exact Or.inr hgreatest
    · refine Or.inr ?_
      split
      · next hcounts => exact ⟨[number], ⟨fun _ => rfl, fun _ => hcounts⟩, Or.inr rfl, rfl⟩
      · next hcounts => exact ⟨[], ⟨fun h => absurd h hcounts, nofun⟩, Or.inl rfl, rfl⟩

/-! ### What is moved on -/

/-- A cursor after one was moved on is one from before with some of its documents behind it. -/
theorem mem_afterSkip {c : Cursor} (hc : c ∈ afterSkip number first rest) :
    ∃ d ∈ first :: rest, c.numbers <:+ d.numbers := by
  have hgroup := takeGreatest_perm first (sameDocument number rest)
  have hmem : ∀ d, d ∈ first :: rest ↔ d = (takeGreatest first (sameDocument number rest)).1 ∨
      d ∈ (takeGreatest first (sameDocument number rest)).2 ++ pastDocument number rest := by
    intro d
    have hd := hgroup.mem_iff (a := d)
    conv_lhs => rw [← sameDocument_append number rest]
    simp only [List.mem_cons, List.mem_append] at hd ⊢
    tauto
  rw [afterSkip, insertCursor_eq_orderedInsert, (List.perm_orderedInsert _ _ _).mem_iff,
    List.mem_cons] at hc
  rcases hc with rfl | hc
  · refine ⟨_, (hmem _).2 (Or.inl rfl), ?_⟩
    rw [Cursor.numbers_seek]
    exact List.dropWhile_suffix _
  · exact ⟨c, (hmem c).2 (Or.inr hc), List.suffix_rfl⟩

/-- A cursor after a group was moved on was moved on itself, or was beyond the document. -/
theorem mem_afterGroup {c : Cursor} (hc : c ∈ afterGroup number first rest) :
    (∃ d ∈ first :: sameDocument number rest, d.advance = c) ∨ c ∈ pastDocument number rest := by
  rw [afterGroup, (sortCursors_perm _).mem_iff, (dropFinished_perm _).mem_iff] at hc
  exact (List.mem_append.1 (List.mem_of_mem_filter hc)).imp_left List.mem_map.1

theorem length_afterGroup_le : (afterGroup number first rest).length ≤ (first :: rest).length := by
  rw [afterGroup, (sortCursors_perm _).length_eq, (dropFinished_perm _).length_eq]
  refine (List.length_filter_le _ _).trans ?_
  rw [List.length_append, List.length_map, ← List.length_append, List.cons_append,
    sameDocument_append]

theorem numbersAhead_afterGroup_perm : (numbersAhead (afterGroup number first rest)).Perm
    (((first :: sameDocument number rest).flatMap fun c => c.numbers.tail) ++
      numbersAhead (pastDocument number rest)) := by
  refine ((sortCursors_perm _).flatMap_right _).trans ?_
  refine (numbersAhead_dropFinished_perm _).trans ?_
  rw [numbersAhead, List.flatMap_append, List.flatMap_map]
  simp only [Cursor.numbers_advance]
  exact .refl _

/-! ### Steps of cursors on their way -/

section Ready

variable {least : Nat} (ready : Ready least (first :: rest))
  (hfirst : first.document? = some number)

include ready hfirst

theorem Ready.least_le_number : least ≤ number := by
  rw [Cursor.document?_eq_head?] at hfirst
  exact ready.least_le first List.mem_cons_self number (List.mem_of_head? hfirst)

/-- The cursors of the group have the document, and then greater ones. -/
theorem Ready.numbers_eq_cons {c : Cursor} (hc : c ∈ first :: sameDocument number rest) :
    c.numbers = number :: c.numbers.tail ∧ ∀ n ∈ c.numbers.tail, number < n := by
  have hhead : c.numbers.head? = some number := by
    rw [← Cursor.document?_eq_head?]
    rcases List.mem_cons.1 hc with rfl | hc
    · exact hfirst
    · simpa using List.mem_takeWhile_imp hc
  have hcons := (List.cons_head?_tail hhead).symm
  have hincreasing := ready.increasing c ((group_sublist number first rest).subset hc)
  rw [hcons] at hincreasing
  exact ⟨hcons, (List.pairwise_cons.1 hincreasing).1⟩

/-- The other cursors are beyond the document: the next one is not at it, and the rest is not before
the next one. -/
theorem Ready.number_lt {c : Cursor} (hc : c ∈ pastDocument number rest) {n : Nat}
    (hn : n ∈ c.numbers) : number < n := by
  have hsub := pastDocument_sublist number rest
  have hincreasing := ready.increasing c (List.mem_cons_of_mem _ (hsub.subset hc))
  obtain ⟨hbefore, hsorted⟩ := List.pairwise_cons.1 ready.sorted
  have hnot := List.head?_dropWhile_not (·.document? = some number) rest
  rw [Cursor.document?_eq_head?] at hfirst
  rw [← pastDocument] at hnot
  cases hpast : pastDocument number rest with
  | nil =>
    rw [hpast] at hc
    cases hc
  | cons next others =>
    rw [hpast] at hc hsub hnot
    simp only [List.head?_cons, decide_eq_false_iff_not, Cursor.document?_eq_head?] at hnot
    have hnext : next.NotBehind c := by
      rcases List.mem_cons.1 hc with rfl | hc
      · exact refl_of Cursor.NotBehind _
      · exact (List.pairwise_cons.1 (List.Pairwise.sublist hsub hsorted)).1 c hc
    obtain ⟨j, hj, hjn⟩ := hnext.exists_le hincreasing hn
    obtain ⟨i, hi, hij⟩ := (Cursor.notBehind_iff _ _).1
      (hbefore next (hsub.subset List.mem_cons_self)) j hj
    obtain rfl : number = i := Option.some.inj (hfirst.symm.trans hi)
    have hne : number ≠ j := by
      rintro rfl
      exact hnot hj
    omega

/-- A cursor that is moved on is put where it leaves the others sorted. -/
theorem Ready.afterSkip : Ready least (afterSkip number first rest) := by
  have hgroup := takeGreatest_perm first (sameDocument number rest)
  have hwaiting : ∀ c ∈ (takeGreatest first (sameDocument number rest)).2,
      c.numbers.head? = some number ∧ ∀ n ∈ c.numbers, number ≤ n := by
    intro c hc
    obtain ⟨hcons, hlt⟩ :=
      ready.numbers_eq_cons hfirst (hgroup.subset (List.mem_cons_of_mem _ hc))
    rw [hcons]
    exact ⟨rfl, List.forall_mem_cons.2 ⟨le_rfl, fun n hn => (hlt n hn).le⟩⟩
  refine ⟨?_, fun c hc => ?_, fun c hc n hn => ?_⟩
  · rw [HelpQuery.afterSkip, insertCursor_eq_orderedInsert]
    refine List.Pairwise.orderedInsert _ _ (List.pairwise_append.2 ⟨?_, ?_, ?_⟩)
    · exact List.pairwise_of_forall_mem_list fun c hc d hd =>
        Cursor.notBehind_of_le (hwaiting c hc).1 (hwaiting d hd).2
    · exact List.Pairwise.sublist (pastDocument_sublist _ _) (List.pairwise_cons.1 ready.sorted).2
    · exact fun c hc d hd =>
        Cursor.notBehind_of_le (hwaiting c hc).1 fun n hn => (ready.number_lt hfirst hd hn).le
  · obtain ⟨d, hd, hsuffix⟩ := mem_afterSkip hc
    exact List.Pairwise.sublist hsuffix.sublist (ready.increasing d hd)
  · obtain ⟨d, hd, hsuffix⟩ := mem_afterSkip hc
    exact ready.least_le d hd n (hsuffix.subset hn)

theorem Ready.afterGroup : Ready (number + 1) (afterGroup number first rest) := by
  refine ⟨pairwise_sortCursors _, fun c hc => ?_, fun c hc n hn => ?_⟩
  · rcases mem_afterGroup hc with ⟨d, hd, rfl⟩ | hc
    · rw [Cursor.numbers_advance]
      exact List.Pairwise.sublist (List.tail_sublist _)
        (ready.increasing d ((group_sublist number first rest).subset hd))
    · exact ready.increasing c (List.mem_cons_of_mem _ ((pastDocument_sublist _ _).subset hc))
  · rcases mem_afterGroup hc with ⟨d, hd, rfl⟩ | hc
    · rw [Cursor.numbers_advance] at hn
      exact (ready.numbers_eq_cons hfirst hd).2 n hn
    · exact ready.number_lt hfirst hc hn

/-- What is ahead of a group that is moved on is what was ahead, without the document. -/
theorem Ready.mem_afterGroup_iff (n : Nat) :
    n ∈ numbersAhead (HelpQuery.afterGroup number first rest) ↔
      n ∈ numbersAhead (first :: rest) ∧ n ≠ number := by
  have hsame : ∀ c ∈ first :: sameDocument number rest,
      (n ∈ c.numbers.tail ↔ n ∈ c.numbers ∧ n ≠ number) := by
    intro c hc
    obtain ⟨hcons, hlt⟩ := ready.numbers_eq_cons hfirst hc
    constructor
    · exact fun hn => ⟨List.mem_of_mem_tail hn, (hlt n hn).ne'⟩
    · rintro ⟨hn, hne⟩
      rw [hcons] at hn
      exact (List.mem_cons.1 hn).resolve_left hne
  have hpast : ∀ c ∈ pastDocument number rest, (n ∈ c.numbers ↔ n ∈ c.numbers ∧ n ≠ number) :=
    fun c hc => ⟨fun hn => ⟨hn, (ready.number_lt hfirst hc hn).ne'⟩, And.left⟩
  have hsplit : first :: rest =
      (first :: sameDocument number rest) ++ pastDocument number rest := by
    rw [List.cons_append, sameDocument_append]
  rw [numbersAhead_afterGroup_perm.mem_iff, hsplit, numbersAhead, numbersAhead,
    List.flatMap_append, List.mem_append, List.mem_append, List.mem_flatMap, List.mem_flatMap,
    List.mem_flatMap]
  constructor
  · rintro (⟨c, hc, hn⟩ | ⟨c, hc, hn⟩)
    · exact ⟨Or.inl ⟨c, hc, ((hsame c hc).1 hn).1⟩, ((hsame c hc).1 hn).2⟩
    · exact ⟨Or.inr ⟨c, hc, hn⟩, ((hpast c hc).1 hn).2⟩
  · rintro ⟨⟨c, hc, hn⟩ | ⟨c, hc, hn⟩, hne⟩
    · exact Or.inl ⟨c, hc, (hsame c hc).2 ⟨hn, hne⟩⟩
    · exact Or.inr ⟨c, hc, hn⟩

theorem Ready.length_afterGroup_lt :
    (numbersAhead (HelpQuery.afterGroup number first rest)).length <
      (numbersAhead (first :: rest)).length := by
  have hcons := (ready.numbers_eq_cons hfirst List.mem_cons_self).1
  have hlength : first.numbers.length = first.numbers.tail.length + 1 := by
    rw [hcons, List.length_cons, List.tail_cons]
  have hsame : ((sameDocument number rest).flatMap fun c => c.numbers.tail).length ≤
      ((sameDocument number rest).flatMap Cursor.numbers).length :=
    (List.Sublist.flatMap_right _ fun c _ => List.tail_sublist _).length_le
  have hsplit : numbersAhead (first :: rest) = first.numbers ++
      ((sameDocument number rest).flatMap Cursor.numbers ++
        numbersAhead (pastDocument number rest)) := by
    conv_lhs => rw [← sameDocument_append number rest]
    rw [numbersAhead, List.flatMap_cons, List.flatMap_append]
    rfl
  rw [numbersAhead_afterGroup_perm.length_eq, hsplit, List.flatMap_cons]
  simp only [List.length_append] at hsame ⊢
  omega

end Ready

end Group

/-! ## Runs -/

/-- Whatever the scores are, what a search finds is ahead of some cursor, and nothing comes up
twice. -/
theorem unionHits_sound (budget : Nat) : ∀ {least : Nat} {cursors : List Cursor},
    Ready least cursors → (unionHits budget cursors).Pairwise (· < ·) ∧
      ∀ n ∈ unionHits budget cursors, least ≤ n ∧ n ∈ numbersAhead cursors := by
  induction budget with
  | zero => exact fun _ => ⟨.nil, nofun⟩
  | succ budget ih =>
    intro least cursors ready
    cases cursors with
    | nil => exact ⟨.nil, nofun⟩
    | cons first rest =>
      cases hfirst : first.document? with
      | none =>
        rw [unionHits, hfirst]
        exact ⟨.nil, nofun⟩
      | some number =>
        rcases unionHits_cases budget rest hfirst with
          ⟨-, hstop⟩ | ⟨-, hskip⟩ | ⟨found, -, hfound, hgroup⟩
        · rw [hstop]
          exact ⟨.nil, nofun⟩
        · obtain ⟨hincreasing, hmem⟩ := ih (ready.afterSkip hfirst)
          rw [hskip]
          refine ⟨hincreasing, fun n hn => ⟨(hmem n hn).1, ?_⟩⟩
          obtain ⟨c, hc, hn⟩ := mem_numbersAhead.1 (hmem n hn).2
          obtain ⟨d, hd, hsuffix⟩ := mem_afterSkip hc
          exact mem_numbersAhead.2 ⟨d, hd, hsuffix.subset hn⟩
        · obtain ⟨hincreasing, hmem⟩ := ih (ready.afterGroup hfirst)
          have hle := ready.least_le_number hfirst
          have hlater : ∀ n ∈ unionHits budget (afterGroup number first rest),
              least ≤ n ∧ n ∈ numbersAhead (first :: rest) := fun n hn =>
            ⟨hle.trans (Nat.le_of_succ_le (hmem n hn).1),
              ((ready.mem_afterGroup_iff hfirst n).1 (hmem n hn).2).1⟩
          rw [hgroup]
          rcases hfound with rfl | rfl
          · exact ⟨hincreasing, hlater⟩
          · refine ⟨List.pairwise_cons.2 ⟨fun n hn => (hmem n hn).1, hincreasing⟩,
              List.forall_mem_cons.2 ⟨⟨hle, ?_⟩, hlater⟩⟩
            rw [Cursor.document?_eq_head?] at hfirst
            exact mem_numbersAhead.2 ⟨first, List.mem_cons_self, List.mem_of_head? hfirst⟩

/-- Above a floor a search with a budget for all that is ahead finds all of it. -/
theorem unionHits_complete {size : Nat} {Above : Nat → Single → Prop}
    (floor : ScoreFloor size Above) (budget : Nat) : ∀ {least : Nat} {cursors : List Cursor},
    Ready least cursors → (∀ c ∈ cursors, c.IsAbove Above) → cursors.length ≤ size →
    (numbersAhead cursors).length < budget →
      ∀ n ∈ numbersAhead cursors, n ∈ unionHits budget cursors := by
  induction budget with
  | zero => exact fun _ _ _ h => absurd h (Nat.not_lt_zero _)
  | succ budget ih =>
    intro least cursors ready habove hsize hbudget n hn
    cases cursors with
    | nil => cases hn
    | cons first rest =>
      cases hfirst : first.document? with
      | none =>
        -- Then all cursors are past their last documents.
        obtain ⟨c, hc, hn⟩ := mem_numbersAhead.1 hn
        have hbehind : first.NotBehind c := by
          rcases List.mem_cons.1 hc with rfl | hc
          · exact refl_of Cursor.NotBehind _
          · exact (List.pairwise_cons.1 ready.sorted).1 c hc
        obtain ⟨i, hi, -⟩ := hbehind.exists_le (ready.increasing c hc) hn
        rw [← Cursor.document?_eq_head?, hfirst] at hi
        cases hi
      | some number =>
        have hsub := group_sublist number first rest
        have hgroup : ∀ c ∈ first :: sameDocument number rest, c.IsAbove Above := fun c hc =>
          habove c (hsub.subset hc)
        have hlength : (first :: sameDocument number rest).length ≤ size :=
          hsub.length_le.trans hsize
        rcases unionHits_cases budget rest hfirst with
          ⟨hbound, -⟩ | ⟨hgreatest, -⟩ | ⟨found, hfound, -, hstep⟩
        · have hcounts := floor.counts (habove first List.mem_cons_self).bound
            (by rw [List.length_cons] at hsize; omega)
          rw [hbound] at hcounts
          cases hcounts
        · have hall : ∀ x ∈ (first :: sameDocument number rest).map Cursor.greatest, Above 1 x :=
            List.forall_mem_map.2 fun c hc => (hgroup c hc).greatest
          have hcounts := floor.counts_scoreSum hall (by rwa [List.length_map])
          rw [hgreatest] at hcounts
          cases hcounts
        · have hall : ∀ x ∈ (first :: sameDocument number rest).filterMap Cursor.score?,
              Above 1 x := by
            intro x hx
            obtain ⟨c, hc, hx⟩ := List.mem_filterMap.1 hx
            obtain ⟨p, hp, rfl⟩ := Option.map_eq_some_iff.1 hx
            exact (hgroup c hc).scores p (List.mem_of_head? hp)
          have hcounts := floor.counts_scoreSum hall ((List.length_filterMap_le _ _).trans hlength)
          rw [hstep, hfound.1 hcounts, List.singleton_append, List.mem_cons]
          by_cases hnumber : n = number
          · exact Or.inl hnumber
          · refine Or.inr (ih (ready.afterGroup hfirst) (fun c hc => ?_) ?_ ?_ n
              ((ready.mem_afterGroup_iff hfirst n).2 ⟨hn, hnumber⟩))
            · rcases mem_afterGroup hc with ⟨d, hd, rfl⟩ | hc
              · exact (hgroup d hd).advance
              · exact habove c (List.mem_cons_of_mem _ ((pastDocument_sublist _ _).subset hc))
            · exact length_afterGroup_le.trans hsize
            · have hlt := ready.length_afterGroup_lt hfirst
              omega

/-! ## Unions -/

/-- The budget of a search is above the number of all that is ahead. -/
theorem foldl_ahead (cursors : List Cursor) (n : Nat) :
    cursors.foldl (fun n c => n + c.ahead.length) n = n + (numbersAhead cursors).length := by
  induction cursors generalizing n with
  | nil => rfl
  | cons c cursors ih =>
    rw [List.foldl_cons, ih, numbersAhead, numbersAhead, List.flatMap_cons, List.length_append,
      Cursor.numbers, List.length_map, Nat.add_assoc]

theorem ready_sortCursors {cursors : List Cursor}
    (h : ∀ c ∈ cursors, c.numbers.Pairwise (· < ·)) : Ready 0 (sortCursors cursors) :=
  ⟨pairwise_sortCursors cursors, fun c hc => h c ((sortCursors_perm cursors).mem_iff.1 hc),
    fun _ _ n _ => Nat.zero_le n⟩

section Unions

variable {segment : List StoredDocument} {cursors : List Cursor} {p : StoredDocument → Bool}
  (hincreasing : ∀ c ∈ cursors, c.numbers.Pairwise (· < ·))
  (hnumbers : ∀ n, n ∈ numbersAhead cursors ↔ n ∈ numbersOf p segment)

include hincreasing hnumbers

theorem findUnion_sublist : (findUnion segment cursors).Sublist (segment.filter p) := by
  obtain ⟨hgo, hmem⟩ := unionHits_sound
    (cursors.foldl (fun n c => n + c.ahead.length) 0 + 1) (ready_sortCursors hincreasing)
  refine filterMap_sublist_filter hgo fun n hn => (hnumbers n).1 ?_
  exact ((sortCursors_perm cursors).flatMap_right _).mem_iff.1 (hmem n hn).2

theorem findUnion_eq_filter {size : Nat} {Above : Nat → Single → Prop}
    (floor : ScoreFloor size Above) (habove : ∀ c ∈ cursors, c.IsAbove Above)
    (hsize : cursors.length ≤ size) : findUnion segment cursors = segment.filter p := by
  have hperm := sortCursors_perm cursors
  have hahead : (numbersAhead (sortCursors cursors)).Perm (numbersAhead cursors) :=
    hperm.flatMap_right _
  have ready := ready_sortCursors hincreasing
  obtain ⟨hgo, hmem⟩ := unionHits_sound
    (cursors.foldl (fun n c => n + c.ahead.length) 0 + 1) ready
  refine filterMap_eq_filter hgo fun n => ⟨fun hn => ?_, fun hn => ?_⟩
  · exact (hnumbers n).1 (hahead.mem_iff.1 (hmem n hn).2)
  · refine unionHits_complete floor _ ready (fun c hc => habove c (hperm.mem_iff.1 hc))
      (hperm.length_eq.trans_le hsize) ?_ n (hahead.mem_iff.2 ((hnumbers n).2 hn))
    rw [foldl_ahead, hahead.length_eq]
    omega

end Unions

end HelpQuery
