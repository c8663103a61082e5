import HelpQuery.Proofs.Analysis

/-!
# The stages of analysis

The runs of a text are the only way to cut it into alphanumeric stretches that cannot be made
longer, each at its byte offset.  The terms of the text are what the stages make of the runs:

    MaximalRuns offset text rs ↔ rs = runsFrom offset text
    p.analyzer text = p.staged Pipeline.longWord (runs text)

A word is left out from 40 bytes on, so one of just 40 bytes is no term.
-/

namespace HelpQuery

/-! ## Maximal runs -/

/-- The alphanumeric stretches of a text that starts at a byte offset, none of which can be made
longer. -/
inductive MaximalRuns : Nat → List Char → List Run → Prop where
  | none {offset : Nat} {gap : List Char} :
      (∀ c ∈ gap, Text.isAlphanumeric c = false) → MaximalRuns offset gap []
  | run {offset : Nat} {gap chars rest : List Char} {rs : List Run} :
      (∀ c ∈ gap, Text.isAlphanumeric c = false) →
      chars ≠ [] → (∀ c ∈ chars, Text.isAlphanumeric c = true) →
      (∀ c ∈ rest.head?, Text.isAlphanumeric c = false) →
      MaximalRuns (offset + byteLength gap + byteLength chars) rest rs →
      MaximalRuns offset (gap ++ chars ++ rest) (⟨offset + byteLength gap, chars⟩ :: rs)

/-- What is not alphanumeric has no runs. -/
theorem runsFrom_gap {gap : List Char} (h : ∀ c ∈ gap, Text.isAlphanumeric c = false)
    (offset : Nat) (rest : List Char) :
    runsFrom offset (gap ++ rest) = runsFrom (offset + byteLength gap) rest := by
  induction gap generalizing offset with
  | nil => rfl
  | cons c gap ih =>
    obtain ⟨hc, hgap⟩ := List.forall_mem_cons.1 h
    have hlength : offset + byteLength (c :: gap) = offset + c.utf8Size + byteLength gap := by
      simp only [byteLength, List.foldr_cons]
      omega
    rw [List.cons_append, runsFrom, if_neg (by simp [hc]), ih hgap, hlength]

/-- Behind a character that is not alphanumeric, runs start further on. -/
theorem lt_start_of_head {rest : List Char} (h : ∀ c ∈ rest.head?, Text.isAlphanumeric c = false)
    {offset : Nat} {r : Run} (hr : r ∈ runsFrom offset rest) : offset < r.start := by
  cases rest with
  | nil => cases hr
  | cons c rest =>
    rw [runsFrom, if_neg (by simp [h c rfl])] at hr
    have hle := le_start_of_mem_runsFrom hr
    have hpos := c.utf8Size_pos
    omega

/-- Alphanumeric characters in front of another one are a run. -/
theorem runsFrom_run {chars rest : List Char} (hne : chars ≠ [])
    (hchars : ∀ c ∈ chars, Text.isAlphanumeric c = true)
    (hrest : ∀ c ∈ rest.head?, Text.isAlphanumeric c = false) (offset : Nat) :
    runsFrom offset (chars ++ rest) =
      ⟨offset, chars⟩ :: runsFrom (offset + byteLength chars) rest := by
  induction chars generalizing offset with
  | nil => exact absurd rfl hne
  | cons c chars ih =>
    obtain ⟨hc, hchars⟩ := List.forall_mem_cons.1 hchars
    rw [List.cons_append, runsFrom]
    simp only [hc, if_true]
    cases chars with
    | nil =>
      -- the runs of the rest start behind a gap
      exact extendRuns_append offset c [] fun r hr => lt_start_of_head hrest hr
    | cons d chars =>
      rw [ih (by simp) hchars, extendRuns, if_pos rfl]
      simp only [byteLength, List.foldr_cons]
      rw [Nat.add_assoc]

/-- Text in front of a gap or at the end makes it longer. -/
theorem MaximalRuns.cons_gap {offset : Nat} {text : List Char} {rs : List Run} {c : Char}
    (hc : Text.isAlphanumeric c = false) (h : MaximalRuns (offset + c.utf8Size) text rs) :
    MaximalRuns offset (c :: text) rs := by
  cases h with
  | none hgap => exact .none (List.forall_mem_cons.2 ⟨hc, hgap⟩)
  | @run _ gap chars rest rs hgap hne hchars hrest h =>
    have hlength : offset + byteLength (c :: gap) = offset + c.utf8Size + byteLength gap := by
      simp only [byteLength, List.foldr_cons]
      omega
    rw [← hlength] at h ⊢
    exact @MaximalRuns.run offset (c :: gap) chars rest rs (List.forall_mem_cons.2 ⟨hc, hgap⟩) hne
      hchars hrest h

/-- An alphanumeric character makes a run at the start longer, or is one of its own. -/
theorem MaximalRuns.cons_run {offset : Nat} {text : List Char} {rs : List Run} {c : Char}
    (hc : Text.isAlphanumeric c = true) (h : MaximalRuns (offset + c.utf8Size) text rs) :
    ∃ rs', MaximalRuns offset (c :: text) rs' := by
  by_cases hhead : ∀ d ∈ text.head?, Text.isAlphanumeric d = false
  · exact ⟨_, @MaximalRuns.run offset [] [c] text rs (by simp) (by simp) (by simp [hc]) hhead h⟩
  · cases h with
    | none hgap => exact absurd (fun d hd => hgap d (List.mem_of_mem_head? hd)) hhead
    | @run _ gap chars rest rs hgap hne hchars hrest h =>
      cases gap with
      | cons d gap =>
        -- a gap at the start has nothing alphanumeric at its head
        refine absurd (fun x hx => ?_) hhead
        obtain rfl : d = x := Option.some.inj hx
        exact hgap d List.mem_cons_self
      | nil =>
        have hlength : offset + c.utf8Size + byteLength [] + byteLength chars =
            offset + byteLength [] + byteLength (c :: chars) := by
          simp only [byteLength, List.foldr_cons, List.foldr_nil]
          omega
        rw [hlength] at h
        exact ⟨_, @MaximalRuns.run offset [] (c :: chars) rest rs (by simp) (by simp)
          (List.forall_mem_cons.2 ⟨hc, hchars⟩) hrest h⟩

/-- Every text has maximal runs. -/
theorem exists_maximalRuns (text : List Char) : ∀ offset, ∃ rs, MaximalRuns offset text rs := by
  induction text with
  | nil => exact fun offset => ⟨[], .none (by simp)⟩
  | cons c text ih =>
    intro offset
    obtain ⟨rs, hrs⟩ := ih (offset + c.utf8Size)
    cases hc : Text.isAlphanumeric c with
    | false => exact ⟨rs, hrs.cons_gap hc⟩
    | true => exact hrs.cons_run hc

theorem maximalRuns_iff (offset : Nat) (text : List Char) (rs : List Run) :
    MaximalRuns offset text rs ↔ rs = runsFrom offset text := by
  have hunique : ∀ {offset text rs}, MaximalRuns offset text rs → rs = runsFrom offset text := by
    intro offset text rs h
    induction h with
    | @none offset gap hgap =>
      have h := runsFrom_gap hgap offset []
      rw [List.append_nil] at h
      rw [h]
      rfl
    | run hgap hne hchars hrest _ ih =>
      rw [List.append_assoc, runsFrom_gap hgap, runsFrom_run hne hchars hrest, ← ih]
  constructor
  · exact hunique
  · rintro rfl
    obtain ⟨rs, hrs⟩ := exists_maximalRuns text offset
    rwa [← hunique hrs]

/-! ## Stages -/

namespace Pipeline

variable (p : Pipeline)

/-- The terms that the stages make of runs: each is put in lower case, those with too many bytes and
stop words are left out, and the others are stemmed. -/
def staged (limit : Nat) (rs : List Run) : List String :=
  let words := rs.map fun r => Text.lower r.chars
  let short := (words.filter fun word => byteLength word < limit).map String.ofList
  (short.filter fun word => !p.isStopWord word).map p.stem

theorem terms_eq_staged (text : String) : p.terms text = p.staged longWord (runs text) := by
  rw [terms_eq, charTerms, staged, runs]
  induction runsFrom 0 text.toList with
  | nil => rfl
  | cons r rs ih =>
    rw [List.map_cons, List.filterMap_cons, ih, term?, List.map_cons, List.filter_cons]
    by_cases hlong : longWord ≤ byteLength (Text.lower r.chars)
    · simp [Nat.not_lt.2 hlong, hlong]
    · by_cases hstop : p.isStopWord (String.ofList (Text.lower r.chars)) = true
      · simp [Nat.not_le.1 hlong, hlong, hstop]
      · simp [Nat.not_le.1 hlong, hlong, hstop]

/-- The terms of a text are what is made of its maximal runs in lower case: those of 40 bytes or
more are left out and so are stop words, and the others are stemmed.  There are stop words in
English alone, and only if they are asked for. -/
theorem analyzer_eq_staged (text : String) :
    (∃! rs, MaximalRuns 0 text.toList rs) ∧
    (∀ rs, MaximalRuns 0 text.toList rs → p.analyzer text = p.staged 40 rs) ∧
    ∀ (language : Language) (stemmers : Stemmers) (stopWords : Bool) (word : String),
      (language.pipeline stemmers stopWords).isStopWord word = true ↔
        stopWords = true ∧ language = .english ∧ word ∈ englishStopWords := by
  refine ⟨⟨runs text, (maximalRuns_iff _ _ _).2 rfl, fun rs h => (maximalRuns_iff _ _ _).1 h⟩,
    fun rs h => ?_, fun language stemmers stopWords word => ?_⟩
  · rw [(maximalRuns_iff _ _ _).1 h]
    exact p.terms_eq_staged text
  · simp [Language.pipeline, and_assoc]

/-- Two words around a stop word and a hyphen. -/
theorem analyzer_eq_staged_contents :
    MaximalRuns 0 "Table of-CONTENTS".toList [⟨0, "Table".toList⟩, ⟨6, "of".toList⟩,
        ⟨9, "CONTENTS".toList⟩] ∧
      (Language.english.pipeline .builtIn true).analyzer "Table of-CONTENTS" =
        (Language.english.pipeline .builtIn true).staged 40 [⟨0, "Table".toList⟩, ⟨6, "of".toList⟩,
          ⟨9, "CONTENTS".toList⟩] := by
  have hruns : MaximalRuns 0 "Table of-CONTENTS".toList [⟨0, "Table".toList⟩, ⟨6, "of".toList⟩,
      ⟨9, "CONTENTS".toList⟩] := (maximalRuns_iff _ _ _).2 (by decide +kernel)
  exact ⟨hruns, (analyzer_eq_staged _ _).2.1 _ hruns⟩

/-- A word of just 40 bytes, which is not longer than 40 bytes, is left out. -/
theorem not_analyzer_keeps_longWord :
    ¬ ∀ (language : Language) (stemmers : Stemmers) (stopWords : Bool) (text : String)
        (rs : List Run), MaximalRuns 0 text.toList rs →
          (language.pipeline stemmers stopWords).analyzer text =
            (language.pipeline stemmers stopWords).staged 41 rs := by
  intro h
  have hstaged := h .german .builtIn true "1234567890123456789012345678901234567890" _
    ((maximalRuns_iff _ _ _).2 rfl)
  revert hstaged
  decide +kernel

end Pipeline

end HelpQuery
