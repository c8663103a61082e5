import HelpQuery.Index.Postings
import Mathlib.Data.List.SplitBy

/-!
# Phrases in postings

Positions grow, so terms at one position after the other are neighbours, and neighbours with no gap
between them are in one passage.  A phrase is found just where its terms stand next to each other in
a passage:

    ps.hasPhrase terms = true ↔ ∃ passage ∈ ps.passages, terms <:+: passage     (terms ≠ [])

Terms that are numbered from zero on without gaps make up a single passage, and the texts of a field
have their own passages each:

    (concat texts).passages = texts.flatMap passages
-/

namespace HelpQuery

/-! ## Terms at one position after the other -/

/-- Terms at the positions from one on. -/
def placedFrom (position : Nat) : List String → List Posting
  | [] => []
  | term :: rest => ⟨term, position⟩ :: placedFrom (position + 1) rest

theorem map_term_placedFrom (position : Nat) (terms : List String) :
    (placedFrom position terms).map Posting.term = terms := by
  induction terms generalizing position with
  | nil => rfl
  | cons term rest ih => rw [placedFrom, List.map_cons, ih]

theorem position_le_of_mem_placedFrom {position : Nat} {terms : List String} {p : Posting}
    (h : p ∈ placedFrom position terms) : position ≤ p.position := by
  induction terms generalizing position with
  | nil => cases h
  | cons term rest ih =>
    rcases List.mem_cons.1 h with rfl | h
    · exact Nat.le_refl _
    · have hrest := ih h
      omega

theorem isChain_placedFrom (position : Nat) (terms : List String) :
    (placedFrom position terms).IsChain fun p q => p.before q = true := by
  induction terms generalizing position with
  | nil => exact .nil
  | cons term rest ih =>
    cases rest with
    | nil => exact .singleton _
    | cons next rest => exact .cons_cons (by simp [Posting.before]) (ih (position + 1))

/-- Neighbours without gaps stand at one position after the other. -/
theorem eq_placedFrom_of_isChain {p : Posting} {ps : List Posting}
    (h : (p :: ps).IsChain fun p q => p.before q = true) :
    p :: ps = placedFrom p.position ((p :: ps).map Posting.term) := by
  induction ps generalizing p with
  | nil => rfl
  | cons q ps ih =>
    obtain ⟨hnext, hrest⟩ := List.isChain_cons_cons.1 h
    have hq : q.position = p.position + 1 := by simpa [Posting.before] using hnext
    rw [List.map_cons, placedFrom, ← hq, ← ih hrest]

/-! ## Neighbours -/

/-- Where no position comes before the first of them, terms at one position after the other come
first. -/
theorem isPrefix_placedFrom {position : Nat} {terms : List String} {ps : List Posting}
    (hps : ps.Pairwise (·.position < ·.position)) (hfirst : ∀ p ∈ ps, position ≤ p.position)
    (h : placedFrom position terms ⊆ ps) : placedFrom position terms <+: ps := by
  induction terms generalizing position ps with
  | nil => exact List.nil_prefix
  | cons term rest ih =>
    obtain ⟨hterm, hrest⟩ := List.cons_subset.1 h
    cases ps with
    | nil => cases hterm
    | cons p ps =>
      obtain ⟨hbehind, htail⟩ := List.pairwise_cons.1 hps
      -- all terms behind the first one have later positions, so it is the first of them
      obtain rfl : ⟨term, position⟩ = p := by
        rcases List.mem_cons.1 hterm with rfl | hterm
        · rfl
        · exact absurd (hbehind _ hterm) (Nat.not_lt.2 (hfirst p List.mem_cons_self))
      refine List.prefix_cons_inj _ |>.2 (ih htail hbehind fun q hq => ?_)
      refine (List.mem_cons.1 (hrest hq)).resolve_left ?_
      rintro rfl
      exact absurd (position_le_of_mem_placedFrom hq) (Nat.not_succ_le_self position)

/-- Among terms whose positions grow, those at one position after the other are neighbours. -/
theorem isInfix_placedFrom {position : Nat} {terms : List String} {ps : List Posting}
    (hps : ps.Pairwise (·.position < ·.position)) (h : placedFrom position terms ⊆ ps) :
    placedFrom position terms <:+: ps := by
  induction ps with
  | nil =>
    have hnone : placedFrom position terms = [] := List.subset_nil.1 h
    simp [hnone]
  | cons p ps ih =>
    obtain ⟨hbehind, htail⟩ := List.pairwise_cons.1 hps
    by_cases hlt : p.position < position
    · refine List.infix_cons (ih htail fun q hq => (List.mem_cons.1 (h hq)).resolve_left ?_)
      rintro rfl
      have hlate := position_le_of_mem_placedFrom hq
      omega
    · refine (isPrefix_placedFrom hps (fun q hq => ?_) h).isInfix
      rcases List.mem_cons.1 hq with rfl | hq
      · omega
      · have hlater := hbehind q hq
        omega

/-- Neighbours without gaps between them are in one of the blocks that end at the gaps. -/
theorem exists_infix_of_infix_flatten {α : Type} {r : α → α → Bool} {c : List α} (hne : c ≠ [])
    (hc : c.IsChain fun x y => r x y = true) {blocks : List (List α)}
    (hblocks : blocks.IsChain fun a b => ∃ ha hb, r (a.getLast ha) (b.head hb) = false)
    (h : c <:+: blocks.flatten) : ∃ b ∈ blocks, c <:+: b := by
  induction blocks with
  | nil => exact absurd (List.infix_nil.1 h) hne
  | cons b blocks ih =>
    rw [List.flatten_cons] at h
    rcases List.infix_append_iff_ne_nil.1 h with h | h | ⟨left, right, hleft, hright, rfl, hs, hp⟩
    · exact ⟨b, List.mem_cons_self, h⟩
    · obtain ⟨b', hb', h⟩ := ih hblocks.tail h
      exact ⟨b', List.mem_cons_of_mem b hb', h⟩
    · -- a part on either side of the end of a block has a gap in it
      exfalso
      cases blocks with
      | nil => exact hright (List.prefix_nil.1 hp)
      | cons b' blocks =>
        obtain ⟨⟨hb, hb', hgap⟩, -⟩ := List.isChain_cons_cons.1 hblocks
        have hlast : left.getLast hleft = b.getLast hb := hs.getLast hleft
        have hhead : right.head hright = b'.head hb' := by
          rw [List.IsPrefix.head hp]
          exact List.head_append_of_ne_nil hb'
        have hnext := (List.isChain_append.1 hc).2.2 _ (List.getLast_mem_getLast? hleft) _
          (List.head_mem_head? hright)
        rw [hlast, hhead, hgap] at hnext
        cases hnext

namespace Postings

variable (ps : Postings)

theorem hasFrom_iff (position : Nat) (terms : List String) :
    ps.hasFrom position terms = true ↔ placedFrom position terms ⊆ ps.toList := by
  induction terms generalizing position with
  | nil => simp [hasFrom, placedFrom]
  | cons term rest ih => simp [hasFrom, placedFrom, ih]

/-! ## Passages -/

theorem mem_passages {passage : List String} :
    passage ∈ ps.passages ↔ ∃ block ∈ ps.toList.splitBy Posting.before,
      block.map Posting.term = passage :=
  List.mem_map

/-- The passages have the terms, in order. -/
theorem flatten_passages : ps.passages.flatten = ps.terms := by
  have hblocks := List.flatten_splitBy Posting.before ps.toList
  rw [terms, ← hblocks, List.map_flatten]
  rfl

theorem mem_terms_iff (term : String) :
    term ∈ ps.terms ↔ ∃ passage ∈ ps.passages, term ∈ passage := by
  rw [← flatten_passages, List.mem_flatten]

/-- Terms without gaps between them are a passage. -/
theorem passages_of_isChain (hne : ps.toList ≠ [])
    (h : ps.toList.IsChain fun p q => p.before q = true) : ps.passages = [ps.terms] := by
  show (ps.toList.splitBy Posting.before).map _ = _
  rw [List.splitBy_of_isChain hne h]
  rfl

/-- The terms of a phrase are found at one position after the other just where they stand next to
each other in a passage. -/
theorem hasPhrase_iff {terms : List String} (hterms : terms ≠ []) :
    ps.hasPhrase terms = true ↔ ∃ passage ∈ ps.passages, terms <:+: passage := by
  simp only [hasPhrase, List.any_eq_true, hasFrom_iff]
  constructor
  · rintro ⟨p, -, hp⟩
    have hne : placedFrom p.position terms ≠ [] := by
      cases terms with
      | nil => exact absurd rfl hterms
      | cons term rest => exact List.cons_ne_nil _ _
    have hinfix := isInfix_placedFrom ps.increasing hp
    rw [← List.flatten_splitBy Posting.before ps.toList] at hinfix
    obtain ⟨block, hblock, hinfix⟩ := exists_infix_of_infix_flatten hne (isChain_placedFrom _ _)
      (List.isChain_getLast_head_splitBy _ _) hinfix
    refine ⟨_, ps.mem_passages.2 ⟨block, hblock, rfl⟩, ?_⟩
    rw [← map_term_placedFrom p.position terms]
    exact hinfix.map Posting.term
  · rintro ⟨passage, hpassage, hinfix⟩
    obtain ⟨block, hblock, rfl⟩ := ps.mem_passages.1 hpassage
    obtain ⟨own, hown, rfl⟩ := List.infix_map_iff.1 hinfix
    have hsub : own ⊆ ps.toList := by
      intro q hq
      rw [← List.flatten_splitBy Posting.before ps.toList]
      exact List.mem_flatten.2 ⟨block, hblock, hown.subset hq⟩
    cases own with
    | nil => exact absurd rfl hterms
    | cons p own =>
      have hchain := List.IsChain.infix (List.isChain_of_mem_splitBy hblock) hown
      refine ⟨p, hsub List.mem_cons_self, ?_⟩
      rw [← eq_placedFrom_of_isChain hchain]
      exact hsub

/-- A phrase is found from one position on at least, and from no more positions than there are. -/
theorem phraseCount_le (terms : List String) : ps.phraseCount terms ≤ ps.toList.length :=
  List.countP_le_length

theorem phraseCount_pos {terms : List String} (h : ps.hasPhrase terms = true) :
    1 ≤ ps.phraseCount terms := by
  obtain ⟨p, hp, hfrom⟩ := List.any_eq_true.1 h
  exact List.countP_pos_iff.2 ⟨p, hp, hfrom⟩

/-! ## Texts of a field -/

/-- Terms moved together have the same gaps. -/
theorem splitBy_map_shift (n : Nat) (ps : List Posting) :
    (ps.map (.shift n)).splitBy Posting.before =
      (ps.splitBy Posting.before).map (·.map (.shift n)) := by
  have hbefore : ∀ p q : Posting, (p.shift n).before (q.shift n) = p.before q := by
    intro p q
    rw [Bool.eq_iff_iff]
    simp only [Posting.before, Posting.shift, beq_iff_eq]
    omega
  refine List.splitBy_eq_iff.2 ⟨?_, ?_, fun block hblock => ?_, ?_⟩
  · rw [← List.map_flatten, List.flatten_splitBy]
  · rintro hnil
    obtain ⟨block, hblock, hempty⟩ := List.mem_map.1 hnil
    exact List.ne_nil_of_mem_splitBy hblock (List.map_eq_nil_iff.1 hempty)
  · obtain ⟨own, hown, rfl⟩ := List.mem_map.1 hblock
    refine (List.isChain_map _).2 ?_
    simpa only [hbefore] using List.isChain_of_mem_splitBy hown
  · refine (List.isChain_map _).2 ((List.isChain_getLast_head_splitBy _ ps).imp ?_)
    rintro left right ⟨hleft, hright, hgap⟩
    refine ⟨by simpa using hleft, by simpa using hright, ?_⟩
    rw [List.getLast_map, List.head_map, hbefore]
    exact hgap

/-- Each text has its own passages: none goes on from one text to the next. -/
theorem passages_concat (texts : List Postings) :
    (concat texts).passages = texts.flatMap passages := by
  have hfrom : ∀ start, ((concatFrom start texts).splitBy Posting.before).map
      (·.map Posting.term) = texts.flatMap passages := by
    induction texts with
    | nil => exact fun start => rfl
    | cons ps rest ih =>
      intro start
      have hgap : ∀ p ∈ (ps.toList.map (Posting.shift start)).getLast?,
          ∀ q ∈ (concatFrom (start + ps.stop + 1) rest).head?, p.before q = false := by
        intro p hp q hq
        obtain ⟨own, hown, rfl⟩ := List.mem_map.1 (List.mem_of_mem_getLast? hp)
        have hlt := position_lt_stop hown
        have hbehind := start_le_position (List.mem_of_mem_head? hq)
        simp only [Posting.before, Posting.shift, beq_eq_false_iff_ne]
        omega
      rw [concatFrom, List.splitBy_append hgap, List.map_append, ih, splitBy_map_shift,
        List.map_map, List.flatMap_cons]
      congr 1
      refine List.map_congr_left fun block _ => ?_
      show (block.map (Posting.shift start)).map Posting.term = block.map Posting.term
      rw [List.map_map]
      rfl
  exact hfrom 0

end Postings

end HelpQuery
