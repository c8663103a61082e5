import HelpQuery.Proofs.Segments
import HelpQuery.Query.Token
import Mathlib.Algebra.Group.Nat.Even

/-!
# Scanning goes through blanks

A raw text has no quotation mark, a dangling one, or a first pair of them: by this induction its
tokens are words, then a phrase, then the tokens of the rest.  Blanks at the two ends of a text make
no token, and a blank outside quotation marks keeps the tokens on its two sides apart:

    scanChars (a ++ c :: b) = scanChars a ++ scanChars b    when isBlank c, a with paired marks
-/

namespace HelpQuery.Token

/-! ## Induction over quotation marks -/

/-- A text has no quotation mark, one that is not matched, or a first pair. -/
@[elab_as_elim]
theorem quotes_induction {motive : List Char → Prop}
    (free : ∀ a, '"' ∉ a → motive a)
    (dangling : ∀ a f, '"' ∉ a → '"' ∉ f → motive (a ++ '"' :: f))
    (pair : ∀ a q b, '"' ∉ a → '"' ∉ q → motive b → motive (a ++ '"' :: (q ++ '"' :: b)))
    (text : List Char) : motive text := by
  have hfree : ∀ a : List Char, (∀ y ∈ a, (y == '"') = false) → '"' ∉ a := fun a h hm => by
    simpa using h _ hm
  -- the marks come in pairs, so the text behind one mark is carried along
  suffices h : motive text ∧ ∀ a, '"' ∉ a → motive (a ++ '"' :: text) from h.1
  induction text using segments_induction (· == '"') with
  | free f hf => exact ⟨free f (hfree f hf), fun a ha => dangling a f ha (hfree f hf)⟩
  | cut q x b hq hx ih =>
    obtain rfl : x = '"' := by simpa using hx
    exact ⟨ih.2 q (hfree q hq), fun a ha => pair a q b ha (hfree q hq) ih.1⟩

theorem even_quotes_pair {a q : List Char} (b : List Char) (ha : '"' ∉ a) (hq : '"' ∉ q) :
    Even ((a ++ '"' :: (q ++ '"' :: b)).count '"') ↔ Even (b.count '"') := by
  have hcount : (a ++ '"' :: (q ++ '"' :: b)).count '"' = b.count '"' + 2 := by
    simp [List.count_eq_zero.2 ha, List.count_eq_zero.2 hq]
  rw [hcount, Nat.even_add]
  exact iff_true_right (by decide)

/-- A text with paired quotation marks has none, or a first pair and paired marks behind it. -/
@[elab_as_elim]
theorem pairs_induction {motive : ∀ text : List Char, Even (text.count '"') → Prop}
    (free : ∀ a h, '"' ∉ a → motive a h)
    (pair : ∀ a q b h hb, '"' ∉ a → '"' ∉ q → motive b hb →
      motive (a ++ '"' :: (q ++ '"' :: b)) h)
    (text : List Char) (heven : Even (text.count '"')) : motive text heven := by
  induction text using quotes_induction with
  | free a ha => exact free a heven ha
  | dangling a f ha hf =>
    have hcount : (a ++ '"' :: f).count '"' = 1 := by
      simp [List.count_eq_zero.2 ha, List.count_eq_zero.2 hf]
    exact absurd (hcount ▸ heven) (by decide)
  | pair a q b ha hq ih =>
    have hb : Even (b.count '"') := (even_quotes_pair b ha hq).1 heven
    exact pair a q b heven hb ha hq (ih hb)

/-! ## The three cases -/

/-- The tokens of a text that starts outside quotation marks. -/
def scanChars (text : List Char) : List Token :=
  ofSegments false (segments (· == '"') text)

theorem segments_quote_of_free {a : List Char} (ha : '"' ∉ a) : segments (· == '"') a = [a] := by
  refine segments_of_free _ fun y hy => ?_
  simpa using fun h : y = '"' => ha (h ▸ hy)

theorem segments_quote_cut {a : List Char} (b : List Char) (ha : '"' ∉ a) :
    segments (· == '"') (a ++ '"' :: b) = a :: segments (· == '"') b := by
  rw [segments_append_cons _ a b (by simp), segments_quote_of_free ha]
  rfl

theorem scanChars_of_free {a : List Char} (ha : '"' ∉ a) :
    scanChars a = (Text.words a).map ofWord := by
  simp [scanChars, segments_quote_of_free ha, ofSegments]

theorem scanChars_dangling {a f : List Char} (ha : '"' ∉ a) (hf : '"' ∉ f) :
    scanChars (a ++ '"' :: f) = (Text.words a).map ofWord := by
  simp [scanChars, segments_quote_cut f ha, segments_quote_of_free hf, ofSegments]

theorem scanChars_pair {a q : List Char} (b : List Char) (ha : '"' ∉ a) (hq : '"' ∉ q) :
    scanChars (a ++ '"' :: (q ++ '"' :: b)) =
      (Text.words a).map ofWord ++ phrase (String.ofList q) :: scanChars b := by
  simp [scanChars, segments_quote_cut _ ha, segments_quote_cut _ hq, ofSegments, segments_ne_nil]

/-! ## Blanks -/

theorem ne_quote_of_isBlank {c : Char} (hc : Text.isBlank c = true) : c ≠ '"' := by
  rintro rfl
  exact absurd hc (by decide)

/-- A text without quotation marks and a blank after it only add words. -/
theorem scanChars_words_append {a : List Char} {c : Char} (b : List Char) (ha : '"' ∉ a)
    (hc : Text.isBlank c = true) :
    scanChars (a ++ c :: b) = (Text.words a).map ofWord ++ scanChars b := by
  have hfree : ∀ w, '"' ∉ w → '"' ∉ a ++ c :: w := fun w hw => by
    simp [ha, hw, (ne_quote_of_isBlank hc).symm]
  induction b using quotes_induction with
  | free w hw =>
    rw [scanChars_of_free (hfree w hw), scanChars_of_free hw, Text.words_append_cons a w hc,
      List.map_append]
  | dangling w f hw hf =>
    rw [scanChars_dangling hw hf, ← List.cons_append, ← List.append_assoc,
      scanChars_dangling (hfree w hw) hf, Text.words_append_cons a w hc, List.map_append]
  | pair w q b hw hq ih =>
    rw [scanChars_pair b hw hq, ← List.cons_append, ← List.append_assoc,
      scanChars_pair b (hfree w hw) hq, Text.words_append_cons a w hc, List.map_append,
      List.append_assoc]

/-- A blank outside quotation marks keeps the tokens on its two sides apart. -/
theorem scanChars_append_blank {a : List Char} {c : Char} (b : List Char)
    (heven : Even (a.count '"')) (hc : Text.isBlank c = true) :
    scanChars (a ++ c :: b) = scanChars a ++ scanChars b := by
  induction a, heven using pairs_induction with
  | free a _ ha => rw [scanChars_words_append b ha hc, scanChars_of_free ha]
  | pair a q a' _ _ ha hq ih =>
    simp only [List.append_assoc, List.cons_append]
    rw [scanChars_pair _ ha hq, ih, scanChars_pair _ ha hq]
    simp

/-! ## Trimming -/

theorem scanChars_nil : scanChars [] = [] := rfl

theorem scanChars_cons_blank {c : Char} (text : List Char) (hc : Text.isBlank c = true) :
    scanChars (c :: text) = scanChars text :=
  scanChars_append_blank (a := []) text (by simp) hc

/-- A blank at the end adds no token, even inside a dangling quotation. -/
theorem scanChars_concat_blank {c : Char} (text : List Char) (hc : Text.isBlank c = true) :
    scanChars (text ++ [c]) = scanChars text := by
  induction text using quotes_induction with
  | free a ha => rw [scanChars_words_append [] ha hc, scanChars_of_free ha]; simp [scanChars_nil]
  | dangling a f ha hf =>
    have hf' : '"' ∉ f ++ [c] := by simp [hf, (ne_quote_of_isBlank hc).symm]
    rw [List.append_assoc, List.cons_append, scanChars_dangling ha hf', scanChars_dangling ha hf]
  | pair a q b ha hq ih =>
    simp only [List.append_assoc, List.cons_append]
    rw [scanChars_pair _ ha hq, ih, scanChars_pair _ ha hq]

theorem scanChars_dropWhile (text : List Char) :
    scanChars (text.dropWhile Text.isBlank) = scanChars text := by
  induction text with
  | nil => rfl
  | cons c text ih =>
    rw [List.dropWhile_cons]
    split
    · next hc => rw [ih, scanChars_cons_blank text hc]
    · rfl

theorem scanChars_reverse_dropWhile (text : List Char) :
    scanChars (text.dropWhile Text.isBlank).reverse = scanChars text.reverse := by
  induction text with
  | nil => rfl
  | cons c text ih =>
    rw [List.dropWhile_cons]
    split
    · next hc => rw [ih, List.reverse_cons, scanChars_concat_blank _ hc]
    · rfl

/-- Trimming has no influence on the tokens. -/
theorem scan_eq (raw : String) : scan raw = scanChars raw.toList := by
  show scanChars (Text.trim raw.toList) = scanChars raw.toList
  rw [Text.trim, scanChars_reverse_dropWhile, List.reverse_reverse, scanChars_dropWhile]

/-! ## Operators between texts -/

theorem scanChars_spelling (op : Operator) : scanChars op.spelling.toList = [operator op] := by
  cases op <;> decide

/-- An operator between blanks is a token of its own. -/
theorem scanChars_operator {a : List Char} (op : Operator) (b : List Char)
    (heven : Even (a.count '"')) :
    scanChars (a ++ ' ' :: (op.spelling.toList ++ ' ' :: b)) =
      scanChars a ++ operator op :: scanChars b := by
  have hspelling : Even (op.spelling.toList.count '"') := by cases op <;> decide
  rw [scanChars_append_blank _ heven (by decide), scanChars_append_blank _ hspelling (by decide),
    scanChars_spelling]
  rfl

end HelpQuery.Token
