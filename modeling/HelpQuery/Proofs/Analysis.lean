import HelpQuery.Analysis.Pipeline
import HelpQuery.Proofs.Segments

/-!
# Analysis goes through blanks

No run of alphanumeric characters reaches over another character, and where a run starts has no
influence on its characters.  Every later stage looks at one run alone, so analysis goes through
cuts at blanks and the terms of a text are those of its words:

    runsFrom offset (a ++ c :: b) = runsFrom offset a ++ runsFrom … b    unless c is alphanumeric
    p.terms text = (quotedWords text).flatMap p.analyzer
-/

namespace HelpQuery

/-! ## Blanks are not alphanumeric -/

theorem Text.Ranges.exists_of_has {n : Nat} {ranges : Text.Ranges} (h : ranges.has n = true) :
    ∃ r ∈ ranges, r.1 ≤ n ∧ n ≤ r.2 := by
  induction ranges with
  | nil => cases h
  | cons r rest ih =>
    obtain ⟨low, high⟩ := r
    rw [Text.Ranges.has] at h
    split at h
    · cases h
    · next hlow =>
      rcases (Bool.or_eq_true _ _).mp h with hhigh | hrest
      · exact ⟨(low, high), List.mem_cons_self, by omega, of_decide_eq_true hhigh⟩
      · obtain ⟨r, hr, hn⟩ := ih hrest
        exact ⟨r, List.mem_cons_of_mem _ hr, hn⟩

theorem Text.not_alphanumeric_of_blank {c : Char} (h : isBlank c = true) :
    isAlphanumeric c = false := by
  have hall : ∀ r ∈ blankRanges, ∀ n ∈ List.range' r.1 (r.2 + 1 - r.1),
      alphanumericRanges.has n = false := by decide +kernel
  obtain ⟨r, hr, hlow, hhigh⟩ := Text.Ranges.exists_of_has h
  exact hall r hr c.toNat (by rw [List.mem_range'_1]; omega)

/-! ## Runs and cuts -/

theorem start_of_mem_extendRuns {offset : Nat} {c : Char} {rs : List Run} {r : Run}
    (h : r ∈ extendRuns offset c rs) : r.start = offset ∨ r ∈ rs := by
  cases rs with
  | nil =>
    obtain rfl := List.mem_singleton.1 h
    exact Or.inl rfl
  | cons r' rest =>
    rw [extendRuns] at h
    split at h
    · rcases List.mem_cons.1 h with rfl | h
      · exact Or.inl rfl
      · exact Or.inr (List.mem_cons_of_mem _ h)
    · rcases List.mem_cons.1 h with rfl | h
      · exact Or.inl rfl
      · exact Or.inr h

theorem le_start_of_mem_runsFrom {text : List Char} :
    ∀ {offset : Nat} {r : Run}, r ∈ runsFrom offset text → offset ≤ r.start := by
  induction text with
  | nil => intro offset r h; cases h
  | cons c text ih =>
    intro offset r h
    unfold runsFrom at h
    split at h
    · rcases start_of_mem_extendRuns h with h | h
      · omega
      · have := ih h
        omega
    · have := ih h
      omega

/-- Runs that start further on are not extended. -/
theorem extendRuns_append (offset : Nat) (c : Char) (rs : List Run) {more : List Run}
    (h : ∀ r ∈ more, offset + c.utf8Size < r.start) :
    extendRuns offset c (rs ++ more) = extendRuns offset c rs ++ more := by
  cases rs with
  | nil =>
    cases more with
    | nil => rfl
    | cons r more =>
      have hr := h r List.mem_cons_self
      show extendRuns offset c (r :: more) = ⟨offset, [c]⟩ :: r :: more
      rw [extendRuns, if_neg (by omega)]
  | cons r rest =>
    simp only [List.cons_append, extendRuns]
    split <;> rfl

/-- A character that is not alphanumeric keeps the runs on its two sides apart. -/
theorem runsFrom_append_cons (a : List Char) {c : Char} (b : List Char)
    (hc : Text.isAlphanumeric c = false) (offset : Nat) :
    runsFrom offset (a ++ c :: b) =
      runsFrom offset a ++ runsFrom (offset + byteLength a + c.utf8Size) b := by
  induction a generalizing offset with
  | nil => simp [runsFrom, hc, byteLength]
  | cons x a ih =>
    have hlen : offset + byteLength (x :: a) = offset + x.utf8Size + byteLength a := by
      simp only [byteLength, List.foldr_cons]
      omega
    have hc' := c.utf8Size_pos
    rw [List.cons_append, runsFrom, runsFrom, ih, hlen]
    split
    · refine extendRuns_append offset x _ fun r hr => ?_
      have := le_start_of_mem_runsFrom hr
      omega
    · rfl

/-- Runs move with the text. -/
theorem runsFrom_shift (k : Nat) (text : List Char) (offset : Nat) :
    runsFrom (offset + k) text =
      (runsFrom offset text).map fun r => ⟨r.start + k, r.chars⟩ := by
  induction text generalizing offset with
  | nil => rfl
  | cons c text ih =>
    have hmove : offset + k + c.utf8Size = offset + c.utf8Size + k := by omega
    rw [runsFrom, runsFrom, hmove, ih]
    split
    · cases runsFrom (offset + c.utf8Size) text with
      | nil => rfl
      | cons r rest =>
        have hiff : r.start + k = offset + k + c.utf8Size ↔ r.start = offset + c.utf8Size := by
          omega
        simp only [List.map_cons, extendRuns, hiff]
        split <;> rfl
    · rfl

theorem map_chars_runsFrom (offset : Nat) (text : List Char) :
    (runsFrom offset text).map Run.chars = (runsFrom 0 text).map Run.chars := by
  have h := runsFrom_shift offset text 0
  rw [Nat.zero_add] at h
  simp [h]

/-! ## Terms -/

namespace Pipeline

variable (p : Pipeline)

/-- The terms of the runs of a text. -/
def charTerms (text : List Char) : List String :=
  ((runsFrom 0 text).map Run.chars).filterMap p.term?

theorem terms_eq (text : String) : p.terms text = p.charTerms text.toList := by
  have hkept : (p.kept text).map Prod.snd = p.charTerms text.toList := by
    simp only [kept, charTerms, runs, List.map_filterMap, List.filterMap_map]
    refine List.filterMap_congr fun r _ => ?_
    cases h : p.term? r.chars <;> simp [h]
  calc p.terms text = ((p.kept text).zipIdx.map Prod.fst).map Prod.snd := by
        rw [terms, occurrences, List.map_map, List.map_map]
        rfl
    _ = p.charTerms text.toList := by rw [List.zipIdx_map_fst, hkept]

theorem charTerms_append_blank (a : List Char) {c : Char} (b : List Char)
    (hc : Text.isBlank c = true) :
    p.charTerms (a ++ c :: b) = p.charTerms a ++ p.charTerms b := by
  have hcut := runsFrom_append_cons a b (Text.not_alphanumeric_of_blank hc) 0
  rw [charTerms, hcut, List.map_append, List.filterMap_append,
    map_chars_runsFrom (0 + byteLength a + c.utf8Size) b]
  rfl

/-- The terms of a text are those of its words, one after the other. -/
theorem flatMap_quotedWords (text : String) :
    (quotedWords text).flatMap p.analyzer = p.terms text := by
  have hword : ∀ w : List Char, p.analyzer (String.ofList w) = p.charTerms w := fun w => by
    rw [analyzer, terms_eq, String.toList_ofList]
  rw [quotedWords, List.flatMap_map, terms_eq]
  simp only [hword]
  exact Text.flatMap_words rfl (fun a c b hc => p.charTerms_append_blank a b hc) text.toList

end Pipeline

end HelpQuery
