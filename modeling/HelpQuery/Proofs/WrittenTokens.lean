import HelpQuery.Proofs.Scanning
import HelpQuery.Query.Report
import Mathlib.Data.List.Forall2

/-!
# Written tokens

Tokens are written with single spaces between them: a word as it is, a phrase between quotation
marks, an operator in letters of either case.  The token lists of raw texts are the lists of proper
tokens, and each of them is scanned from every text it can be written as:

    (∃ raw, scan raw = tokens) ↔ ∀ t ∈ tokens, t.Proper
    scan (" ".intercalate pieces) = tokens    for written forms `pieces` of proper `tokens`
-/

namespace HelpQuery

/-! ## Spellings of operators -/

theorem Text.toNat_toLower (c : Char) :
    c.toLower.toNat = if 65 ≤ c.toNat ∧ c.toNat ≤ 90 then c.toNat + 32 else c.toNat := by
  have hcapital : (c.val ≥ 'A'.val ∧ c.val ≤ 'Z'.val) ↔ 65 ≤ c.toNat ∧ c.toNat ≤ 90 := Iff.rfl
  unfold Char.toLower
  split
  · next h =>
    rw [if_pos (hcapital.1 h)]
    show (c.val + 32).toNat = c.val.toNat + 32
    have hle : c.val.toNat ≤ 90 := h.2
    rw [UInt32.toNat_add]
    show (c.val.toNat + 32) % 2 ^ 32 = c.val.toNat + 32
    omega
  · next h => rw [if_neg (fun hn => h (hcapital.2 hn))]

/-- A character that has the lower case form of a capital is one of the two. -/
theorem Text.toLower_eq_iff {c upper : Char} (h : 65 ≤ upper.toNat ∧ upper.toNat ≤ 90) :
    c.toLower = upper.toLower ↔ c = upper ∨ c = upper.toLower := by
  simp only [← Char.toNat_inj, toNat_toLower, if_pos h]
  split <;> omega

namespace Operator

/-- A word spells an operator if its letters do, each of them in either case. -/
def SpelledBy (op : Operator) (word : List Char) : Prop :=
  List.Forall₂ (fun c upper => c = upper ∨ c = upper.toLower) word op.spelling.toList

theorem capital_of_mem_spelling (op : Operator) :
    ∀ c ∈ op.spelling.toList, 65 ≤ c.toNat ∧ c.toNat ≤ 90 := by
  have hall : (op.spelling.toList.all fun c => 65 ≤ c.toNat && c.toNat ≤ 90) = true := by
    cases op <;> decide
  intro c hc
  simpa using List.all_eq_true.1 hall c hc

theorem spelledBy_iff (op : Operator) (word : List Char) :
    op.SpelledBy word ↔ word.map Char.toLower = op.spelling.toList.map Char.toLower := by
  have hletters : ∀ upper : List Char, (∀ c ∈ upper, 65 ≤ c.toNat ∧ c.toNat ≤ 90) →
      (List.Forall₂ (fun c u => c = u ∨ c = u.toLower) word upper ↔
        word.map Char.toLower = upper.map Char.toLower) := by
    intro upper hupper
    induction word generalizing upper with
    | nil => cases upper <;> simp
    | cons c word ih =>
      cases upper with
      | nil => simp
      | cons u upper =>
        obtain ⟨hu, hupper⟩ := List.forall_mem_cons.1 hupper
        rw [List.forall₂_cons, ih upper hupper, List.map_cons, List.map_cons, List.cons.injEq,
          Text.toLower_eq_iff hu]
  exact hletters _ op.capital_of_mem_spelling

instance (op : Operator) (word : List Char) : Decidable (op.SpelledBy word) :=
  decidable_of_iff _ (op.spelledBy_iff word).symm

/-- The spelling of an operator is a word without quotation marks. -/
theorem SpelledBy.isWord {op : Operator} {word : List Char} (h : op.SpelledBy word) :
    word ≠ [] ∧ ∀ c ∈ word, Text.isBlank c = false ∧ c ≠ '"' := by
  have hall : (op.spelling.toList.all fun upper =>
      [upper, upper.toLower].all fun c => !Text.isBlank c && c != '"') = true := by
    cases op <;> decide
  have hletters : ∀ upper ∈ op.spelling.toList, ∀ c, c = upper ∨ c = upper.toLower →
      Text.isBlank c = false ∧ c ≠ '"' := by
    intro upper hupper c hc
    simpa using List.all_eq_true.1 (List.all_eq_true.1 hall upper hupper) c (by simpa using hc)
  constructor
  · rintro rfl
    cases op <;> cases h
  · unfold SpelledBy at h
    generalize op.spelling.toList = letters at h hletters
    induction h with
    | nil => simp
    | cons hc _ ih =>
      refine List.forall_mem_cons.2 ⟨hletters _ List.mem_cons_self _ hc, ih fun u hu => ?_⟩
      exact hletters u (List.mem_cons_of_mem _ hu)

/-- The reserved words are told apart by their letters. -/
theorem ofWord?_eq_some_iff (word : List Char) (op : Operator) :
    ofWord? word = some op ↔ op.SpelledBy word := by
  rw [spelledBy_iff]
  constructor
  · intro h
    simpa [Text.sameIgnoringCase] using List.find?_some h
  · intro h
    unfold ofWord? Text.sameIgnoringCase
    rw [h]
    cases op <;> decide

end Operator

namespace Token

/-! ## Proper tokens -/

/-- Whether a token can come from a raw text: a word that is not empty, has neither blanks nor
quotation marks and spells no operator, or a phrase without quotation marks, or an operator. -/
def Proper : Token → Prop
  | word text =>
    text ≠ "" ∧ (∀ c ∈ text.toList, Text.isBlank c = false ∧ c ≠ '"') ∧
      ∀ op : Operator, ¬ op.SpelledBy text.toList
  | phrase text => '"' ∉ text.toList
  | operator _ => True

theorem proper_ofWord {text w : List Char} (hw : w ∈ Text.words text) (hquote : '"' ∉ text) :
    (ofWord w).Proper := by
  obtain ⟨hne, hchars⟩ := Text.of_mem_words hw
  unfold ofWord
  split
  · trivial
  · next hop =>
    refine ⟨by simpa using hne, ?_, ?_⟩
    · intro c hc
      rw [String.toList_ofList] at hc
      obtain ⟨hmem, hblank⟩ := hchars c hc
      exact ⟨hblank, fun h => hquote (h ▸ hmem)⟩
    · intro op h
      rw [String.toList_ofList, ← Operator.ofWord?_eq_some_iff, hop] at h
      cases h

/-- All tokens of a raw text are proper. -/
theorem proper_of_mem_scanChars {text : List Char} {t : Token} (h : t ∈ scanChars text) :
    t.Proper := by
  have hwords : ∀ a : List Char, '"' ∉ a → t ∈ (Text.words a).map ofWord → t.Proper := by
    intro a ha ht
    obtain ⟨w, hw, rfl⟩ := List.mem_map.1 ht
    exact proper_ofWord hw ha
  induction text using quotes_induction with
  | free a ha => exact hwords a ha (by rwa [scanChars_of_free ha] at h)
  | dangling a f ha hf => exact hwords a ha (by rwa [scanChars_dangling ha hf] at h)
  | pair a q b ha hq ih =>
    rw [scanChars_pair b ha hq, List.mem_append, List.mem_cons] at h
    rcases h with h | rfl | h
    · exact hwords a ha h
    · show '"' ∉ (String.ofList q).toList
      rwa [String.toList_ofList]
    · exact ih h

/-! ## Written forms -/

/-- Whether a text is a written form of a token. -/
def WrittenAs : Token → String → Prop
  | word text, written => written = text
  | phrase text, written => written = "\"" ++ text ++ "\""
  | operator op, written => op.SpelledBy written.toList

theorem writtenAs_shown (t : Token) : t.WrittenAs t.shown := by
  cases t with
  | word text => rfl
  | phrase text => rfl
  | operator op => exact (op.spelledBy_iff _).2 rfl

/-- A written form has paired quotation marks and is scanned as its token alone. -/
theorem scanChars_of_writtenAs {t : Token} {written : String} (ht : t.Proper)
    (h : t.WrittenAs written) :
    Even (written.toList.count '"') ∧ scanChars written.toList = [t] := by
  cases t with
  | word text =>
    obtain ⟨hne, hchars, hop⟩ := ht
    obtain rfl : written = text := h
    have hquote : '"' ∉ written.toList := fun hm => (hchars _ hm).2 rfl
    have hnone : Operator.ofWord? written.toList = none := by
      rw [Option.eq_none_iff_forall_ne_some]
      exact fun op hsome => hop op ((Operator.ofWord?_eq_some_iff _ op).1 hsome)
    rw [List.count_eq_zero.2 hquote, scanChars_of_free hquote,
      Text.words_of_free (by simpa using hne) fun c hc => (hchars c hc).1]
    simp [ofWord, hnone]
  | phrase text =>
    have hquote : '"' ∉ text.toList := ht
    obtain rfl : written = "\"" ++ text ++ "\"" := h
    have hlist : ("\"" ++ text ++ "\"").toList = [] ++ '"' :: (text.toList ++ '"' :: []) := by
      simp [String.toList_append]
    rw [hlist, scanChars_pair [] (by simp) hquote]
    have hcount : ([] ++ '"' :: (text.toList ++ ['"'])).count '"' = 2 := by
      simp [List.count_eq_zero.2 hquote]
    refine ⟨by rw [hcount]; decide, ?_⟩
    simp [scanChars_nil, Text.words, segments]
  | operator op =>
    have hsome : Operator.ofWord? written.toList = some op :=
      (Operator.ofWord?_eq_some_iff _ op).2 h
    obtain ⟨hne, hchars⟩ := Operator.SpelledBy.isWord h
    have hquote : '"' ∉ written.toList := fun hm => (hchars _ hm).2 rfl
    rw [List.count_eq_zero.2 hquote, scanChars_of_free hquote,
      Text.words_of_free hne fun c hc => (hchars c hc).1]
    simp [ofWord, hsome]

/-- The tokens of pieces with paired quotation marks are put together. -/
theorem scanChars_intercalate (pieces : List (List Char))
    (heven : ∀ p ∈ pieces, Even (p.count '"')) :
    scanChars ([' '].intercalate pieces) = pieces.flatMap scanChars := by
  induction pieces with
  | nil => rfl
  | cons p pieces ih =>
    obtain ⟨hp, hpieces⟩ := List.forall_mem_cons.1 heven
    cases pieces with
    | nil => simp
    | cons q pieces =>
      rw [List.intercalate_cons_cons, List.append_assoc, List.singleton_append,
        scanChars_append_blank _ hp (by decide), ih hpieces]
      rfl

/-- Proper tokens are scanned from whatever they are written as. -/
theorem scan_of_writtenAs {tokens : List Token} {pieces : List String}
    (hproper : ∀ t ∈ tokens, t.Proper) (h : List.Forall₂ WrittenAs tokens pieces) :
    scan (" ".intercalate pieces) = tokens := by
  have hpieces : (∀ p ∈ pieces.map String.toList, Even (p.count '"')) ∧
      (pieces.map String.toList).flatMap scanChars = tokens := by
    induction h with
    | nil => exact ⟨by simp, rfl⟩
    | @cons t p tokens pieces hp _ ih =>
      obtain ⟨ht, htokens⟩ := List.forall_mem_cons.1 hproper
      obtain ⟨heven, hscan⟩ := scanChars_of_writtenAs ht hp
      obtain ⟨hevens, hscans⟩ := ih htokens
      refine ⟨List.forall_mem_cons.2 ⟨heven, hevens⟩, ?_⟩
      rw [List.map_cons, List.flatMap_cons, hscan, hscans, List.singleton_append]
  rw [scan_eq, String.toList_intercalate]
  exact (scanChars_intercalate _ hpieces.1).trans hpieces.2

/-! ## Scanning and writing -/

/-- Tokens as one text, operators in capitals. -/
def write (tokens : List Token) : String := " ".intercalate (tokens.map shown)

theorem scan_write {tokens : List Token} (hproper : ∀ t ∈ tokens, t.Proper) :
    scan (write tokens) = tokens := by
  refine scan_of_writtenAs hproper ?_
  rw [List.forall₂_map_right_iff, List.forall₂_same]
  exact fun t _ => t.writtenAs_shown

theorem proper_of_mem_scan {raw : String} {t : Token} (h : t ∈ scan raw) : t.Proper := by
  rw [scan_eq] at h
  exact proper_of_mem_scanChars h

/-- The token lists of raw texts are the lists of proper tokens.  Such a list is scanned from all
that it can be written as, so the tokens of a raw text can be written and scanned again. -/
theorem scan_inverts_writing :
    (∀ tokens, (∃ raw, scan raw = tokens) ↔ ∀ t ∈ tokens, t.Proper) ∧
    (∀ tokens pieces, (∀ t ∈ tokens, Proper t) → List.Forall₂ WrittenAs tokens pieces →
      scan (" ".intercalate pieces) = tokens) ∧
    ∀ raw, scan (write (scan raw)) = scan raw := by
  refine ⟨fun tokens => ?_, fun _ _ => scan_of_writtenAs, fun raw => ?_⟩
  · constructor
    · rintro ⟨raw, rfl⟩ t ht
      exact proper_of_mem_scan ht
    · intro hproper
      exact ⟨write tokens, scan_write hproper⟩
  · exact scan_write fun t ht => proper_of_mem_scan ht

/-- An operator in mixed case stands next to phrases, of which one is empty and one would be an
operator without its marks. -/
theorem scan_inverts_writing_mixedCase :
    (∀ t ∈ [.word "drag-and-drop", .operator .not, .phrase " AND ", .phrase ""], Proper t) ∧
    scan (" ".intercalate ["drag-and-drop", "nOt", "\" AND \"", "\"\""]) =
      [.word "drag-and-drop", .operator .not, .phrase " AND ", .phrase ""] := by
  have hall : ("drag-and-drop".toList.all fun c => !Text.isBlank c && c != '"') = true := by
    decide
  have hword : Proper (.word "drag-and-drop") :=
    ⟨by decide, fun c hc => by simpa using List.all_eq_true.1 hall c hc,
      fun op => by cases op <;> decide⟩
  have hproper : ∀ t ∈ [.word "drag-and-drop", .operator .not, .phrase " AND ", .phrase ""],
      Proper t := by
    simp only [List.forall_mem_cons]
    exact ⟨hword, trivial, show '"' ∉ _ by decide, show '"' ∉ _ by decide, by simp⟩
  have hwritten : List.Forall₂ WrittenAs
      [.word "drag-and-drop", .operator .not, .phrase " AND ", .phrase ""]
      ["drag-and-drop", "nOt", "\" AND \"", "\"\""] :=
    .cons rfl (.cons (show Operator.SpelledBy _ _ by decide) (.cons rfl (.cons rfl .nil)))
  exact ⟨hproper, scan_inverts_writing.2.1 _ _ hproper hwritten⟩

end Token

end HelpQuery
