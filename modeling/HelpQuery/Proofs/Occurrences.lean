import HelpQuery.Proofs.Sources

/-!
# Places of terms

Read from its last stage, a pipeline hands out the terms of a text in order and is over, whatever was
read before.  They are numbered from zero, and each keeps the place of its run, which is a maximal
alphanumeric stretch of the text; these stretches do not even touch.

    p.source.read n (p.source.start text left) = (p.occurrences text).take n
    p.tokens text = p.occurrences text
    StretchAt text word o.start o.stop, p.term? word.toList = some o.term      for o ∈ p.occurrences text
-/

namespace HelpQuery

/-! ## Byte offsets -/

theorem byteLength_append (a b : List Char) : byteLength (a ++ b) = byteLength a + byteLength b := by
  induction a with
  | nil => simp [byteLength]
  | cons c a ih =>
    simp only [byteLength, List.cons_append, List.foldr_cons] at ih ⊢
    omega

theorem utf8ByteSize_ofList_eq_byteLength (chars : List Char) :
    (String.ofList chars).utf8ByteSize = byteLength chars := by
  induction chars with
  | nil => rfl
  | cons c chars ih =>
    rw [String.ofList_cons, String.utf8ByteSize_append, String.utf8ByteSize_singleton, ih]
    rfl

/-! ## Stretches -/

/-- Whether a word stands in a text between two byte offsets, both between characters, and is a
stretch of alphanumeric characters that cannot be made longer. -/
def StretchAt (text word : String) (start stop : Nat) : Prop :=
  ∃ before after : String, text = before ++ word ++ after ∧
    start = before.utf8ByteSize ∧ stop = (before ++ word).utf8ByteSize ∧
    word ≠ "" ∧ (∀ c ∈ word.toList, Text.isAlphanumeric c = true) ∧
    (∀ c ∈ before.toList.getLast?, Text.isAlphanumeric c = false) ∧
    ∀ c ∈ after.toList.head?, Text.isAlphanumeric c = false

theorem StretchAt.start_lt_stop {text word : String} {start stop : Nat}
    (h : StretchAt text word start stop) : start < stop := by
  obtain ⟨before, after, -, rfl, rfl, hne, -⟩ := h
  have hpos : word.utf8ByteSize ≠ 0 := mt String.utf8ByteSize_eq_zero_iff.1 hne
  rw [String.utf8ByteSize_append]
  omega

namespace MaximalRuns

variable {offset : Nat} {text : List Char} {rs : List Run}

/-- Where a run stands in the text. -/
theorem exists_eq_append (h : MaximalRuns offset text rs) {r : Run} (hr : r ∈ rs) :
    ∃ before after, text = before ++ r.chars ++ after ∧ r.start = offset + byteLength before ∧
      r.chars ≠ [] ∧ (∀ c ∈ r.chars, Text.isAlphanumeric c = true) ∧
      (∀ c ∈ before.getLast?, Text.isAlphanumeric c = false) ∧
      ∀ c ∈ after.head?, Text.isAlphanumeric c = false := by
  induction h with
  | none => cases hr
  | @run offset gap chars rest rs hgap hne hchars hrest _ ih =>
    rcases List.mem_cons.1 hr with rfl | hr
    · exact ⟨gap, rest, rfl, rfl, hne, hchars,
        fun c hc => hgap c (List.mem_of_getLast? hc), hrest⟩
    · obtain ⟨before, after, rfl, hstart, hne', hchars', hbefore, hafter⟩ := ih hr
      refine ⟨gap ++ chars ++ before, after, by simp, ?_, hne', hchars', ?_, hafter⟩
      · rw [hstart, byteLength_append, byteLength_append]
        omega
      · -- directly behind a run nothing alphanumeric follows, so no other run
        have hbefore_ne : before ≠ [] := by
          rintro rfl
          obtain ⟨c, cs, hcs⟩ := List.exists_cons_of_ne_nil hne'
          have htrue := hchars' c (by simp [hcs])
          rw [hrest c (by simp [hcs])] at htrue
          cases htrue
        rwa [List.getLast?_append_of_ne_nil _ hbefore_ne]

theorem pairwise_stop_lt_start (h : MaximalRuns offset text rs) :
    rs.Pairwise fun a b => a.stop < b.start := by
  induction h with
  | none => exact List.Pairwise.nil
  | run _ _ _ hrest hmore ih =>
    refine List.Pairwise.cons (fun r hr => ?_) ih
    rw [(maximalRuns_iff _ _ _).1 hmore] at hr
    exact lt_start_of_head hrest hr

end MaximalRuns

theorem stretchAt_of_mem_runs {text : String} {r : Run} (h : r ∈ runs text) :
    StretchAt text (String.ofList r.chars) r.start r.stop := by
  obtain ⟨before, after, htext, hstart, hne, hchars, hbefore, hafter⟩ :=
    ((maximalRuns_iff 0 text.toList (runs text)).2 rfl).exists_eq_append h
  refine ⟨String.ofList before, String.ofList after, ?_, ?_, ?_, ?_, ?_, ?_, ?_⟩
  · rw [← String.ofList_append, ← String.ofList_append, ← htext, String.ofList_toList]
  · rw [utf8ByteSize_ofList_eq_byteLength, hstart, Nat.zero_add]
  · rw [← String.ofList_append, utf8ByteSize_ofList_eq_byteLength, byteLength_append, Run.stop,
      hstart, Nat.zero_add]
  · simpa using hne
  · simpa using hchars
  · simpa using hbefore
  · simpa using hafter

/-! ## Pipelines -/

namespace Pipeline

variable (p : Pipeline)

/-- The term of a run with the place of the run, unless the run is left out. -/
def place? (r : Run) : Option (String × Nat × Nat) :=
  (p.term? r.chars).map fun term => (term, r.start, r.stop)

theorem occurrences_eq (text : String) :
    p.occurrences text = numberedFrom 0 ((runs text).filterMap p.place?) := by
  have hplaces : (runs text).filterMap p.place? =
      (p.kept text).map fun (r, term) => (term, r.start, r.stop) := by
    rw [kept, List.map_filterMap]
    refine congrArg (List.filterMap · _) (funext fun r => ?_)
    rw [place?, Option.map_map]
    rfl
  rw [hplaces, numberedFrom, List.zipIdx_map, List.map_map]
  rfl

/-- The stages on the runs of a text, one after the other. -/
theorem map_filter_map_eq_filterMap_place? (rs : List Run) :
    ((((rs.map fun r => (String.ofList r.chars, r.start, r.stop)).map
      fun (word, ends) => (String.ofList (Text.lower word.toList), ends)).filter
      fun place => byteLength place.1.toList < longWord).filter
      fun place => !p.isStopWord place.1).map (fun (word, ends) => (p.stem word, ends)) =
    rs.filterMap p.place? := by
  induction rs with
  | nil => rfl
  | cons r rs ih =>
    rw [List.filterMap_cons, ← ih, place?, term?]
    by_cases hlong : longWord ≤ byteLength (Text.lower r.chars)
    · simp [Nat.not_lt.2 hlong, hlong]
    · by_cases hstop : p.isStopWord (String.ofList (Text.lower r.chars)) = true
      · simp [Nat.not_le.1 hlong, hlong, hstop]
      · simp [Nat.not_le.1 hlong, hlong, hstop]

/-- The stages up to the stems hand out the terms of the runs that are kept. -/
theorem gives_stems (rs : List Run) : p.stems.Gives rs (rs.filterMap p.place?) := by
  rw [← p.map_filter_map_eq_filterMap_place?]
  exact FiniteSource.gives_mapTerm _ (FiniteSource.gives_filterTerm _
    (FiniteSource.gives_filterTerm _ (FiniteSource.gives_mapTerm _ (FiniteSource.gives_ofRuns rs))))

/-- Whatever was read before, a pipeline hands out the terms of a text and is over. -/
theorem read_source (text : String) (left : Reading (List Run × Nat)) (n : Nat) :
    p.source.read n (p.source.start text left) = (p.occurrences text).take n := by
  have hstems := (p.gives_stems (runs text)).handOut_eq (fun i o => o.numbered i) n 0
    (p.stems.start text ⟨left.state.1, left.slot⟩).slot
  rw [source, TermSource.read_contiguous, occurrences_eq, ← take_numberedFrom]
  exact congrArg (numberedFrom 0) hstems

/-- A text is read to its end. -/
theorem tokens_eq (text : String) : p.tokens text = p.occurrences text := by
  have hplaces : ((runs text).filterMap p.place?).length ≤ (runs text).length :=
    List.length_filterMap_le ..
  have hlength : (p.occurrences text).length = ((runs text).filterMap p.place?).length := by
    rw [occurrences_eq, ← List.length_map Occurrence.unnumbered, map_unnumbered_numberedFrom]
  rw [tokens, read_source, List.take_of_length_le (by omega)]

theorem map_position_occurrences (text : String) :
    (p.occurrences text).map Occurrence.position = List.range (p.occurrences text).length := by
  rw [occurrences_eq, map_position_numberedFrom, ← List.length_map Occurrence.unnumbered,
    map_unnumbered_numberedFrom, List.range_eq_range']

theorem map_unnumbered_occurrences (text : String) :
    (p.occurrences text).map Occurrence.unnumbered = (runs text).filterMap p.place? := by
  rw [occurrences_eq, map_unnumbered_numberedFrom]

/-- Every term is that of a stretch of the text, between the ends of the stretch. -/
theorem exists_stretchAt {text : String} {o : Occurrence} (h : o ∈ p.occurrences text) :
    ∃ word, StretchAt text word o.start o.stop ∧ p.term? word.toList = some o.term := by
  have hplace : o.unnumbered ∈ (runs text).filterMap p.place? := by
    rw [← map_unnumbered_occurrences]
    exact List.mem_map_of_mem h
  obtain ⟨r, hr, hplace⟩ := List.mem_filterMap.1 hplace
  obtain ⟨term, hterm, hsame⟩ := Option.map_eq_some_iff.1 hplace
  obtain ⟨rfl, hstart, hstop⟩ : term = o.term ∧ r.start = o.start ∧ r.stop = o.stop := by
    simpa [Occurrence.unnumbered] using hsame
  refine ⟨String.ofList r.chars, ?_, by rwa [String.toList_ofList]⟩
  rw [← hstart, ← hstop]
  exact stretchAt_of_mem_runs hr

theorem pairwise_occurrences (text : String) :
    (p.occurrences text).Pairwise fun a b => a.stop < b.start := by
  have hruns := ((maximalRuns_iff 0 text.toList (runs text)).2 rfl).pairwise_stop_lt_start
  have hplaces : ((runs text).filterMap p.place?).Pairwise fun x y => x.2.2 < y.2.1 := by
    refine hruns.filterMap _ fun r r' hlt x hx y hy => ?_
    obtain ⟨term, -, rfl⟩ := Option.map_eq_some_iff.1 hx
    obtain ⟨term', -, rfl⟩ := Option.map_eq_some_iff.1 hy
    exact hlt
  rw [← map_unnumbered_occurrences, List.pairwise_map] at hplaces
  exact hplaces

end Pipeline

/-! ## Any source -/

/-- Read from its last stage, a pipeline hands out the terms of a text and is over, whatever was
read before: their numbers are those from zero on, and each has the place of its run, a stretch of
alphanumeric characters that cannot be made longer.  Of any source at all, that stage lets through
the terms one by one, numbered from zero in every text, with their texts and places; these are the
terms the source hands out while they are numbered in its slot, and if it does not look at the
numbers, those it hands out on its own. -/
theorem numbering_keeps_places :
    (∀ (p : Pipeline) (text : String),
      (∀ left n, p.source.read n (p.source.start text left) = (p.occurrences text).take n) ∧
      (p.occurrences text).map Occurrence.position = List.range (p.occurrences text).length ∧
      (p.occurrences text).map Occurrence.term = p.analyzer text ∧
      (p.occurrences text).map Occurrence.unnumbered =
        (runs text).filterMap (fun r =>
          (p.term? r.chars).map fun term => (term, r.start, r.stop)) ∧
      (∀ o ∈ p.occurrences text, o.start < o.stop ∧
        ∃ word, StretchAt text word o.start o.stop ∧ p.term? word.toList = some o.term) ∧
      (p.occurrences text).Pairwise fun a b => a.stop < b.start) ∧
    ∀ {σ : Type} (s : TermSource σ) (text : String) (left : Reading (σ × Nat)) (n : Nat),
      let begun := s.start text ⟨left.state.1, left.slot⟩
      let terms := s.contiguous.read n (s.contiguous.start text left)
      terms.map Occurrence.position = List.range terms.length ∧
      terms.map Occurrence.unnumbered =
        (s.handOut (fun i o => o.numbered i) n 0 begun).map Occurrence.unnumbered ∧
      (s.IgnoresNumbers →
        terms.map Occurrence.unnumbered = (s.read n begun).map Occurrence.unnumbered) := by
  constructor
  · intro p text
    refine ⟨p.read_source text, p.map_position_occurrences text, rfl,
      p.map_unnumbered_occurrences text, fun o ho => ?_, p.pairwise_occurrences text⟩
    obtain ⟨word, hstretch, hterm⟩ := p.exists_stretchAt ho
    exact ⟨hstretch.start_lt_stop, word, hstretch, hterm⟩
  · intro σ s text left n begun terms
    have hterms : terms = numberedFrom 0 ((s.handOut (fun i o => o.numbered i) n 0 begun).map
      Occurrence.unnumbered) := s.read_contiguous text left n
    have hplaces : terms.map Occurrence.unnumbered =
        (s.handOut (fun i o => o.numbered i) n 0 begun).map Occurrence.unnumbered := by
      rw [hterms, map_unnumbered_numberedFrom]
    refine ⟨?_, hplaces, fun hs => ?_⟩
    · rw [← List.length_map Occurrence.unnumbered, hplaces, hterms, map_position_numberedFrom,
        List.range_eq_range']
    · rw [hplaces]
      exact hs.handOut_numbered n begun

/-- A source of the same terms for every text, under their own numbers. -/
def TermSource.ofList (os : List Occurrence) : TermSource (List Occurrence) where
  start _ r := ⟨os, r.slot⟩
  next r :=
    match r.state with
    | [] => (false, r)
    | o :: rest => (true, ⟨rest, o⟩)

theorem TermSource.ignoresNumbers_ofList (os : List Occurrence) :
    (TermSource.ofList os).IgnoresNumbers := by
  rintro ⟨state, slot⟩ ⟨_, slot'⟩ ⟨rfl, hslot⟩
  cases state with
  | nil => exact ⟨rfl, rfl, hslot⟩
  | cons o rest => exact ⟨rfl, rfl, rfl⟩

/-- The words of a text without the one between them. -/
def gappedContents : TermSource (List Occurrence) :=
  .ofList [⟨"table", 0, 0, 5⟩, ⟨"contents", 2, 9, 17⟩]

/-- What is left of the reading of another text. -/
def leftView : Occurrence := ⟨"view", 7, 30, 34⟩

/-- A letter of two bytes, and a stop word in front of the next word; and a source with a gap. -/
theorem numbering_keeps_places_views :
    (Language.english.pipeline .builtIn true).source.read 5
        ((Language.english.pipeline .builtIn true).source.start "É of Views"
          ⟨([⟨30, "view".toList⟩], 8), leftView⟩) =
      [⟨"é", 0, 0, 2⟩, ⟨"view", 1, 6, 11⟩] ∧
    (∃ word, StretchAt "É of Views" word 0 2 ∧
      (Language.english.pipeline .builtIn true).term? word.toList = some "é") ∧
    gappedContents.IgnoresNumbers ∧
    (gappedContents.contiguous.read 5 (gappedContents.contiguous.start "" ⟨([], 8), leftView⟩)).map
        Occurrence.unnumbered =
      (gappedContents.read 5 (gappedContents.start "" ⟨[], leftView⟩)).map Occurrence.unnumbered := by
  have hterms : (Language.english.pipeline .builtIn true).occurrences "É of Views" =
      [⟨"é", 0, 0, 2⟩, ⟨"view", 1, 6, 11⟩] := by decide +kernel
  have hsource := TermSource.ignoresNumbers_ofList [⟨"table", 0, 0, 5⟩, ⟨"contents", 2, 9, 17⟩]
  obtain ⟨hread, -, -, -, hplaces, -⟩ :=
    numbering_keeps_places.1 (Language.english.pipeline .builtIn true) "É of Views"
  rw [hterms] at hread hplaces
  refine ⟨hread _ 5, (hplaces _ List.mem_cons_self).2, hsource, ?_⟩
  exact (numbering_keeps_places.2 gappedContents "" ⟨([], 8), leftView⟩ 5).2.2 hsource

end HelpQuery
