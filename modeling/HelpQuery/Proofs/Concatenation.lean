import HelpQuery.Proofs.WrittenTokens
import HelpQuery.Query.Compiler

/-!
# Tokens of texts put together

Texts with paired quotation marks can be put in front of others: nothing but a word can reach over
the place where they meet, and none does if there is a blank or a mark.  A text with a mark left over
has a last part, behind that mark, without tokens; every other text can be read off its tokens but
for blanks, marks and the case of letters:

    scanChars (a ++ b) = scanChars a ++ scanChars b    if a ends or b starts with a mark, a paired
    scanChars (p ++ '"' :: f) = scanChars p            if p is paired and f has no mark
    (scanChars text).flatMap letters = bare text       if text is paired
-/

namespace HelpQuery.Token

/-! ## Where texts meet -/

/-- Blanks in front of a text make no token. -/
theorem scanChars_blanks_append {w : List Char} (b : List Char)
    (hw : ∀ c ∈ w, Text.isBlank c = true) : scanChars (w ++ b) = scanChars b := by
  induction w with
  | nil => rfl
  | cons c w ih =>
    obtain ⟨hc, hw⟩ := List.forall_mem_cons.1 hw
    rw [List.cons_append, scanChars_cons_blank _ hc, ih hw]

/-- A mark ends the words in front of it. -/
theorem scanChars_append_mark {a : List Char} (b : List Char) (ha : '"' ∉ a) :
    scanChars (a ++ '"' :: b) = scanChars a ++ scanChars ('"' :: b) := by
  have hnil : '"' ∉ ([] : List Char) := List.not_mem_nil
  by_cases hb : '"' ∈ b
  · obtain ⟨q, rest, rfl, hq⟩ := List.eq_append_cons_of_mem hb
    rw [scanChars_pair rest ha hq, scanChars_of_free ha]
    exact congrArg _ (scanChars_pair rest hnil hq).symm
  · rw [scanChars_dangling ha hb, scanChars_of_free ha]
    have hdangling : scanChars ('"' :: b) = [] := scanChars_dangling hnil hb
    rw [hdangling, List.append_nil]

/-- A mark where two texts meet keeps their tokens apart. -/
theorem scanChars_append_of_mark {a b : List Char} (heven : Even (a.count '"'))
    (h : a.getLast? = some '"' ∨ b.head? = some '"') :
    scanChars (a ++ b) = scanChars a ++ scanChars b := by
  induction a, heven using pairs_induction with
  | free a _ ha =>
    rcases h with h | h
    · exact absurd (List.mem_of_getLast? h) ha
    · obtain ⟨b, rfl⟩ := List.head?_eq_some_iff.1 h
      exact scanChars_append_mark b ha
  | pair a q a' _ _ ha hq ih =>
    have hrest : scanChars (a' ++ b) = scanChars a' ++ scanChars b := by
      by_cases hnil : a' = []
      · subst hnil
        rfl
      · refine ih (h.imp_left fun hlast => ?_)
        have hinner : (a ++ '"' :: (q ++ '"' :: a')).getLast? = a'.getLast? := by
          simp [List.getLast?_append, List.getLast?_cons, List.getLast?_eq_some_getLast hnil]
        rwa [hinner] at hlast
    simp only [List.append_assoc, List.cons_append]
    rw [scanChars_pair _ ha hq, hrest, scanChars_pair _ ha hq, List.append_assoc,
      List.cons_append]

/-- Blanks where two texts meet keep their tokens apart, and are needed only if there is no mark. -/
theorem scanChars_append_append {a w b : List Char} (heven : Even (a.count '"'))
    (hw : ∀ c ∈ w, Text.isBlank c = true)
    (h : w = [] → a.getLast? = some '"' ∨ b.head? = some '"') :
    scanChars (a ++ w ++ b) = scanChars a ++ scanChars b := by
  cases w with
  | nil =>
    rw [List.append_nil]
    exact scanChars_append_of_mark heven (h rfl)
  | cons c w =>
    obtain ⟨hc, hw⟩ := List.forall_mem_cons.1 hw
    rw [List.append_assoc, List.cons_append, scanChars_append_blank _ heven hc,
      scanChars_blanks_append b hw]

/-! ## Marks that are not matched -/

/-- What stands behind an unmatched last mark makes no token. -/
theorem scanChars_append_dangling {p f : List Char} (heven : Even (p.count '"')) (hf : '"' ∉ f) :
    scanChars (p ++ '"' :: f) = scanChars p := by
  induction p, heven using pairs_induction with
  | free p _ hp => rw [scanChars_dangling hp hf, scanChars_of_free hp]
  | pair a q b _ _ ha hq ih =>
    simp only [List.append_assoc, List.cons_append]
    rw [scanChars_pair _ ha hq, ih, scanChars_pair _ ha hq]

/-- Marks are not paired just if there is one with paired marks in front of it and none behind. -/
theorem not_even_quotes_iff (text : List Char) :
    ¬ Even (text.count '"') ↔
      ∃ p f, text = p ++ '"' :: f ∧ Even (p.count '"') ∧ '"' ∉ f := by
  constructor
  · intro hodd
    induction text using quotes_induction with
    | free a ha =>
      have hzero : Even (a.count '"') := by
        rw [List.count_eq_zero.2 ha]
        decide
      exact absurd hzero hodd
    | dangling a f ha hf =>
      refine ⟨a, f, rfl, ?_, hf⟩
      rw [List.count_eq_zero.2 ha]
      decide
    | pair a q b ha hq ih =>
      rw [even_quotes_pair b ha hq] at hodd
      obtain ⟨p, f, rfl, hp, hf⟩ := ih hodd
      refine ⟨a ++ '"' :: (q ++ '"' :: p), f, by simp, ?_, hf⟩
      exact (even_quotes_pair p ha hq).2 hp
  · rintro ⟨p, f, rfl, hp, hf⟩
    have hcount : (p ++ '"' :: f).count '"' = p.count '"' + 1 := by
      simp [List.count_eq_zero.2 hf]
    rw [hcount, Nat.even_add_one, not_not]
    exact hp

theorem hasUnterminatedQuote_eq_true_iff (raw : String) :
    hasUnterminatedQuote raw = true ↔ ¬ Even (raw.toList.count '"') := by
  have hcount : raw.toList.countP (· == '"') = raw.toList.count '"' := rfl
  rw [hasUnterminatedQuote, hcount, beq_iff_eq, Nat.not_even_iff]

/-! ## Nothing is lost -/

/-- What a token spells: its text, or its operator in capitals. -/
def spelling : Token → String
  | word text => text
  | phrase text => text
  | operator op => op.spelling

/-- The characters of a text but its blanks, in lower case. -/
def unspaced (text : List Char) : List Char :=
  (text.filter (! Text.isBlank ·)).map Char.toLower

/-- A word spells what its token does. -/
theorem unspaced_spelling_ofWord (w : List Char) :
    unspaced (ofWord w).spelling.toList = unspaced w := by
  unfold ofWord
  split
  · next op hop =>
    have hspelled := (Operator.ofWord?_eq_some_iff w op).1 hop
    have hfree : ∀ c ∈ w, Text.isBlank c = false := fun c hc => (hspelled.isWord.2 c hc).1
    have hfilter : w.filter (! Text.isBlank ·) = w := by
      rw [List.filter_eq_self]
      intro c hc
      rw [hfree c hc]
      rfl
    have hcapitals : op.spelling.toList.filter (! Text.isBlank ·) = op.spelling.toList := by
      cases op <;> decide
    show unspaced op.spelling.toList = unspaced w
    rw [unspaced, unspaced, hfilter, hcapitals]
    exact ((op.spelledBy_iff w).1 hspelled).symm
  · show unspaced (String.ofList w).toList = unspaced w
    rw [String.toList_ofList]

/-- The tokens of a text with paired marks spell the text but for blanks, marks and case. -/
theorem flatMap_unspaced_scanChars {text : List Char} (heven : Even (text.count '"')) :
    (scanChars text).flatMap (fun t => unspaced t.spelling.toList) =
      unspaced (text.filter (· != '"')) := by
  have happend : ∀ a b, unspaced (a ++ b) = unspaced a ++ unspaced b := by
    intro a b
    rw [unspaced, List.filter_append, List.map_append]
    rfl
  have hfilter : ∀ a : List Char, '"' ∉ a → a.filter (· != '"') = a := by
    intro a ha
    rw [List.filter_eq_self]
    rintro c hc
    simpa using fun h : c = '"' => ha (h ▸ hc)
  have hwords : ∀ a : List Char, ((Text.words a).map ofWord).flatMap
      (fun t => unspaced t.spelling.toList) = unspaced a := by
    intro a
    rw [List.flatMap_map]
    simp only [unspaced_spelling_ofWord]
    refine Text.flatMap_words rfl (fun a c b hc => ?_) a
    rw [happend]
    simp [unspaced, hc]
  induction text, heven using pairs_induction with
  | free a _ ha => rw [scanChars_of_free ha, hwords, hfilter a ha]
  | pair a q b _ _ ha hq ih =>
    have hbare : (a ++ '"' :: (q ++ '"' :: b)).filter (· != '"') =
        a ++ (q ++ b.filter (· != '"')) := by
      simp [hfilter a ha, hfilter q hq]
    rw [scanChars_pair b ha hq, List.flatMap_append, List.flatMap_cons, hwords, ih, hbare, happend,
      happend, spelling, String.toList_ofList]

/-! ## Raw texts -/

theorem toList_append_mark (p s : String) :
    (p ++ "\"" ++ s).toList = p.toList ++ '"' :: s.toList := by
  simp [String.toList_append]

theorem scan_append_dangling {p s : String} (hp : Even (p.toList.count '"'))
    (hs : '"' ∉ s.toList) : scan (p ++ "\"" ++ s) = scan p := by
  rw [scan_eq, scan_eq, toList_append_mark, scanChars_append_dangling hp hs]

/-- A text with paired marks, blanks and another text have the tokens of the two texts, and the
blanks may be missing where there is a mark.  A mark is unmatched just if the marks in front of it
are paired and none is behind it; what is behind it has no influence on any query.  Without such a
mark the tokens spell the text but for blanks, marks and the case of letters. -/
theorem scan_concatenation :
    (∀ a w b : String, Even (a.toList.count '"') → (∀ c ∈ w.toList, Text.isBlank c = true) →
      (w = "" → a.toList.getLast? = some '"' ∨ b.toList.head? = some '"') →
      scan (a ++ w ++ b) = scan a ++ scan b) ∧
    (∀ raw, hasUnterminatedQuote raw = true ↔
      ∃ p s : String, raw = p ++ "\"" ++ s ∧ Even (p.toList.count '"') ∧ '"' ∉ s.toList) ∧
    (∀ p s : String, Even (p.toList.count '"') → '"' ∉ s.toList →
      scan (p ++ "\"" ++ s) = scan p ∧
        ∀ c : Compiler, c.compile (p ++ "\"" ++ s) = { c.compile p with raw := p ++ "\"" ++ s }) ∧
    ∀ raw, hasUnterminatedQuote raw = false →
      (((scan raw).flatMap fun t => t.spelling.toList).filter (! Text.isBlank ·)).map Char.toLower =
        ((raw.toList.filter (· != '"')).filter (! Text.isBlank ·)).map Char.toLower := by
  refine ⟨fun a w b heven hw h => ?_, fun raw => ?_,
    fun p s hp hs => ⟨scan_append_dangling hp hs, ?_⟩, fun raw hraw => ?_⟩
  · rw [scan_eq, scan_eq, scan_eq, String.toList_append, String.toList_append]
    refine scanChars_append_append heven hw fun hnil => h ?_
    exact String.toList_inj.1 hnil
  · rw [hasUnterminatedQuote_eq_true_iff, not_even_quotes_iff]
    constructor
    · rintro ⟨p, f, htext, hp, hf⟩
      refine ⟨.ofList p, .ofList f, ?_, by simpa using hp, by simpa using hf⟩
      rw [← String.toList_inj, toList_append_mark, htext, String.toList_ofList, String.toList_ofList]
    · rintro ⟨p, s, rfl, hp, hs⟩
      exact ⟨p.toList, s.toList, toList_append_mark p s, hp, hs⟩
  · intro c
    unfold Compiler.compile
    rw [scan_append_dangling hp hs]
  · have heven : Even (raw.toList.count '"') := by
      by_contra hodd
      rw [(hasUnterminatedQuote_eq_true_iff raw).2 hodd] at hraw
      cases hraw
    have hspelled := flatMap_unspaced_scanChars heven
    rw [scan_eq, List.filter_flatMap, List.map_flatMap]
    exact hspelled

/-- A phrase meets another one, a text ends in an unmatched mark, and one spells an operator in mixed
case. -/
theorem scan_concatenation_openView :
    scan ("open \"java view\"" ++ "" ++ "\"ui\" nOT") =
        scan "open \"java view\"" ++ scan "\"ui\" nOT" ∧
      (∃ p s : String, "java NOT \" swing" = p ++ "\"" ++ s ∧ Even (p.toList.count '"') ∧
        '"' ∉ s.toList) ∧
      scan ("java NOT " ++ "\"" ++ " swing") = scan "java NOT " ∧
      (((scan "\"Java  View\" nOT ui").flatMap fun t => t.spelling.toList).filter
          (! Text.isBlank ·)).map Char.toLower = "javaviewnotui".toList := by
  obtain ⟨happend, hmark, hdangling, hspelled⟩ := scan_concatenation
  refine ⟨?_, (hmark _).1 (by decide), (hdangling _ _ (by decide) (by decide)).1, ?_⟩
  · exact happend _ _ _ (by decide) (by simp) fun _ => Or.inl (by decide)
  · exact (hspelled "\"Java  View\" nOT ui" (by decide)).trans (by decide)

end HelpQuery.Token
