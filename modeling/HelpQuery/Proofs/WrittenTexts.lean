import HelpQuery.Toml.Printer
import HelpQuery.Toml.Text
import Mathlib.Tactic.SplitIfs

/-!
# Written texts

Each of the four forms a text is written in has its own reader, and that gives the text back, and
what follows the closing, as long as no further mark does:

    readText ((writeText text).toList ++ rest) = some (text.toList, rest)

Inside the forms over several lines stand marks, never more than two in a row; at the end of a text
they run into the closing.
-/

namespace HelpQuery.Toml

/-! ## Escapes -/

/-- How the readers of basic strings go through characters and escapes. -/
structure ReadsEscapes (read : BasicState → List Char → TextResult) : Prop where
  char : ∀ {c} tail, isTextChar c = true → c ≠ '"' → c ≠ '\\' →
    read (.plain false) (c :: tail) = .cons c (read (.plain false) tail)
  backslash : ∀ tail, read (.plain false) ('\\' :: tail) = read .escape tail
  letter : ∀ {c e} tail, escapedChar? c = some e →
    read .escape (c :: tail) = .cons e (read (.plain false) tail)
  codePoint : ∀ tail, read .escape ('u' :: tail) = read (.digits 4 0) tail
  digit : ∀ {c d left value} tail, hexValue? c = some d → 1 < left →
    read (.digits left value) (c :: tail) = read (.digits (left - 1) (16 * value + d)) tail
  lastDigit : ∀ {c d e left value} tail, hexValue? c = some d → left ≤ 1 →
    charOf? (16 * value + d) = some e →
      read (.digits left value) (c :: tail) = .cons e (read (.plain false) tail)

theorem readsEscapes_basicText : ReadsEscapes basicText where
  char tail h hmark hslash := by
    rw [basicText]
    simp only [if_neg hmark, if_neg hslash, if_pos h]
  backslash tail := rfl
  letter tail h := by
    rw [basicText]
    simp only [h]
  codePoint tail := rfl
  digit tail h hleft := by
    rw [basicText]
    simp only [h, if_neg (Nat.not_le.2 hleft)]
  lastDigit tail h hleft he := by
    rw [basicText]
    simp only [h, if_pos hleft, he]
    rfl

theorem readsEscapes_longBasicText : ReadsEscapes longBasicText where
  char {c} tail h hmark hslash := by
    have hreturn : c ≠ '\r' := by
      rintro rfl
      exact absurd h (by decide)
    rw [longBasicText.eq_def]
    simp [hmark, hslash, hreturn, h]
  backslash tail := by
    rw [longBasicText.eq_def]
    simp
  letter tail h := by
    rw [longBasicText]
    simp only [h]
  codePoint tail := rfl
  digit tail h hleft := by
    rw [longBasicText]
    simp only [h, if_neg (Nat.not_le.2 hleft)]
  lastDigit tail h hleft he := by
    rw [longBasicText]
    simp only [h, if_pos hleft, he]
    rfl

/-- The four digits of a control have its code point as their value. -/
theorem controlDigits_values :
    ∀ n < 0x80, (controlDigits (Char.ofNat n)).length = 4 ∧
      (controlDigits (Char.ofNat n)).mapM hexValue? = some [0, 0, n / 16, n % 16] := by
  decide +kernel

/-- A character that is neither a mark nor a control stands for itself. -/
theorem isTextChar_of_not_control {c : Char} (h : ¬ (c.toNat < 0x20 ∨ c = '\x7f')) :
    isTextChar c = true := by
  obtain ⟨hlow, hdelete⟩ := not_or.1 h
  unfold isTextChar
  simp [hdelete, Nat.not_lt.1 hlow]

/-- A character that needs no escape stands for itself, but for a line feed. -/
theorem isTextChar_of_needsEscape {c : Char} (h : needsEscape c = false) (hline : c ≠ '\n') :
    isTextChar c = true := by
  by_cases htab : c = '\t'
  · subst htab
    decide
  · refine isTextChar_of_not_control ?_
    simpa [needsEscape, htab, hline] using h

section

variable {read : BasicState → List Char → TextResult} (hread : ReadsEscapes read)

include hread

/-- The digits of a code point are read as its character. -/
theorem ReadsEscapes.digits {e : Char} (tail : List Char) (ds : List Char) :
    ∀ {vs : List Nat} {value : Nat}, ds.mapM hexValue? = some vs → ds ≠ [] →
      charOf? (vs.foldl (16 * · + ·) value) = some e →
      read (.digits ds.length value) (ds ++ tail) = .cons e (read (.plain false) tail) := by
  induction ds with
  | nil =>
    intro vs value _ h
    exact absurd rfl h
  | cons d ds ih =>
    intro vs value hvs _ he
    simp only [List.mapM_cons, Option.bind_eq_bind, Option.bind_eq_some_iff, Option.pure_def,
      Option.some.injEq] at hvs
    obtain ⟨v, hv, vs, hvs, rfl⟩ := hvs
    cases ds with
    | nil =>
      obtain rfl : [] = vs := Option.some.inj hvs
      exact hread.lastDigit tail hv (Nat.le_refl 1) he
    | cons d' ds =>
      have hleft : 1 < (d :: d' :: ds).length := by simp
      show read (.digits _ value) (d :: (d' :: ds ++ tail)) = _
      rw [hread.digit _ hv hleft]
      exact ih hvs (List.cons_ne_nil d' ds) he

/-- The escape of a control is read as the control. -/
theorem ReadsEscapes.controlDigits {c : Char} (hc : c.toNat < 0x80) (tail : List Char) :
    read (.plain false) ('\\' :: 'u' :: (controlDigits c ++ tail)) =
      .cons c (read (.plain false) tail) := by
  obtain ⟨hlength, hvalues⟩ := controlDigits_values c.toNat hc
  rw [Char.ofNat_toNat] at hlength hvalues
  have hne : Toml.controlDigits c ≠ [] := by
    intro h
    rw [h] at hlength
    cases hlength
  have hcode : charOf? ([0, 0, c.toNat / 16, c.toNat % 16].foldl (16 * · + ·) 0) = some c := by
    have hvalue : [0, 0, c.toNat / 16, c.toNat % 16].foldl (16 * · + ·) 0 = c.toNat := by
      simp only [List.foldl_cons, List.foldl_nil]
      omega
    have hvalid : c.toNat.isValidChar := c.valid
    rw [hvalue, charOf?, if_pos hvalid, Char.ofNat_toNat]
  rw [hread.backslash, hread.codePoint, ← hlength]
  exact hread.digits tail _ hvalues hne hcode

/-- The escaped form of a character is read as the character. -/
theorem ReadsEscapes.escapeChar (long : Bool) {c : Char} (hmark : c ≠ '"')
    (hline : long = true → ∀ tail, read (.plain false) ('\n' :: tail) =
      .cons '\n' (read (.plain false) tail)) (tail : List Char) :
    read (.plain false) (escapeChar long c ++ tail) = .cons c (read (.plain false) tail) := by
  have hletter : ∀ {letter e : Char}, escapedChar? letter = some e →
      read (.plain false) ('\\' :: letter :: tail) = .cons e (read (.plain false) tail) := by
    intro letter e h
    rw [hread.backslash, hread.letter tail h]
  unfold Toml.escapeChar
  split
  · exact hletter rfl
  · exact hletter rfl
  · split
    · next h => exact hline h tail
    · exact hletter rfl
  · exact hletter rfl
  · exact hletter rfl
  · exact hletter rfl
  · next hslash =>
    split
    · next hcontrol =>
      have hc : c.toNat < 0x80 := by
        rcases hcontrol with h | rfl
        · omega
        · decide
      exact hread.controlDigits hc tail
    · next hcontrol =>
      exact hread.char tail (isTextChar_of_not_control hcontrol) hmark fun h => hslash h

end

/-- What is written for a character other than a quotation mark starts with none, and it starts with
no carriage return, and with a line feed for a line feed alone. -/
theorem escapeChar_eq_cons (long : Bool) {c : Char} (h : c ≠ '"') :
    ∃ p ps, escapeChar long c = p :: ps ∧ p ≠ '"' ∧ p ≠ '\r' ∧ (p = '\n' → c = '\n') := by
  unfold escapeChar
  split
  · exact ⟨_, _, rfl, by decide⟩
  · exact ⟨_, _, rfl, by decide⟩
  · split
    · exact ⟨_, _, rfl, by decide⟩
    · exact ⟨_, _, rfl, by decide⟩
  · exact ⟨_, _, rfl, by decide⟩
  · exact ⟨_, _, rfl, by decide⟩
  · exact ⟨_, _, rfl, by decide⟩
  · next hreturn _ =>
    split
    · exact ⟨_, _, rfl, by simp⟩
    · exact ⟨_, _, rfl, h, hreturn, id⟩

/-! ## Texts on one line -/

theorem basicText_escapeText (cs rest : List Char) :
    basicText (.plain false) (escapeText false 0 cs ++ '"' :: rest) = some (cs, rest) := by
  induction cs with
  | nil => rfl
  | cons c cs ih =>
    rw [escapeText]
    by_cases hmark : c = '"'
    · subst hmark
      show basicText (.plain false) ('\\' :: '"' :: (escapeText false 0 cs ++ '"' :: rest)) = _
      rw [readsEscapes_basicText.backslash, readsEscapes_basicText.letter _ rfl, ih]
      rfl
    · rw [if_neg hmark, List.append_assoc,
        readsEscapes_basicText.escapeChar false hmark (fun h => absurd h Bool.false_ne_true), ih]
      rfl

theorem literalText_append {cs : List Char} (rest : List Char)
    (h : ∀ c ∈ cs, isTextChar c = true ∧ c ≠ '\'') :
    literalText (cs ++ '\'' :: rest) = some (cs, rest) := by
  induction cs with
  | nil => rfl
  | cons c cs ih =>
    obtain ⟨hc, hcs⟩ := List.forall_mem_cons.1 h
    rw [List.cons_append, literalText, if_neg hc.2, if_pos hc.1, ih hcs]
    rfl

/-! ## Texts over several lines -/

/-- The characters `written` stand for `text` between marks; so many marks stand in front of them,
and with those never more than two in a row. -/
inductive Spelling (read : List Char → TextResult) (mark : Char) :
    Nat → List Char → List Char → Prop where
  | nil {marks : Nat} : marks ≤ 2 → Spelling read mark marks [] []
  | mark {marks : Nat} {text written : List Char} : Spelling read mark (marks + 1) text written →
      Spelling read mark marks (mark :: text) (mark :: written)
  | char {marks : Nat} {c p : Char} {ps text written : List Char} : marks ≤ 2 → p ≠ mark →
      (∀ tail, read (p :: ps ++ tail) = .cons c (read tail)) → Spelling read mark 0 text written →
      Spelling read mark marks (c :: text) (p :: ps ++ written)

/-- How the readers of texts over several lines go through marks. -/
structure ReadsMarks (read : List Char → TextResult) (mark : Char) : Prop where
  close : ∀ after, read (mark :: mark :: mark :: after) = some (closing mark after)
  one : ∀ after, after.head? ≠ some mark ∨ after.tail.head? ≠ some mark →
    read (mark :: after) = .cons mark (read after)

theorem readsMarks_longBasicText : ReadsMarks (longBasicText (.plain false)) '"' where
  close after := by
    rw [longBasicText.eq_def]
    simp
  one after h := by
    rw [longBasicText.eq_def]
    simp only [Bool.false_eq_true, false_and, if_false, if_true]
    rw [if_neg (by decide)]
    split
    · simp at h
    · rfl

theorem readsMarks_longLiteralText : ReadsMarks longLiteralText '\'' where
  close after := by
    rw [longLiteralText.eq_def]
    simp
  one after h := by
    rw [longLiteralText.eq_def]
    simp only [if_true]
    split
    · simp at h
    · rfl

theorem closing_of_head? {mark : Char} {rest : List Char} (h : rest.head? ≠ some mark) :
    closing mark rest = ([], rest) := by
  unfold closing
  split
  · next a b r =>
    have ha : a ≠ mark := fun ha => h (congrArg some ha)
    rw [if_neg ha]
  · next a =>
    have ha : a ≠ mark := fun ha => h (congrArg some ha)
    rw [if_neg ha]
  · rfl

theorem closing_one {mark : Char} {rest : List Char} (h : rest.head? ≠ some mark) :
    closing mark (mark :: rest) = ([mark], rest) := by
  unfold closing
  split
  · next a b r heq =>
    obtain ⟨rfl, rfl⟩ := List.cons.inj heq
    have hb : b ≠ mark := fun hb => h (congrArg some hb)
    rw [if_pos rfl, if_neg hb]
  · next a heq =>
    obtain ⟨rfl, rfl⟩ := List.cons.inj heq
    rw [if_pos rfl]
  · next heq => cases heq

theorem closing_two (mark : Char) (rest : List Char) :
    closing mark (mark :: mark :: rest) = ([mark, mark], rest) := by
  rw [closing, if_pos rfl, if_pos rfl]

namespace Spelling

variable {read : List Char → TextResult} {mark : Char}

theorem marks_le {marks : Nat} {text written : List Char}
    (h : Spelling read mark marks text written) : marks ≤ 2 := by
  induction h with
  | nil hmarks => exact hmarks
  | mark _ ih => omega
  | char hmarks => exact hmarks

/-- A reader reads a spelled text back.  A mark is one of the text's unless the closing starts with
it, and then the marks up to the end of the text, two at most, come back from behind the closing. -/
theorem read_append (hread : ReadsMarks read mark) {rest : List Char}
    (hrest : rest.head? ≠ some mark) {marks : Nat} {text written : List Char}
    (h : Spelling read mark marks text written) :
    read (written ++ mark :: mark :: mark :: rest) = some (text, rest) := by
  induction h with
  | nil hmarks =>
    rw [List.nil_append, hread.close, closing_of_head? hrest]
  | char hmarks hp hpiece htext ih =>
    rw [List.append_assoc, hpiece, ih]
    rfl
  | mark htext ih =>
    -- Whether a closing starts here hangs on the two characters behind the mark.
    rw [List.cons_append]
    cases htext with
    | nil hmarks =>
      rw [List.nil_append, hread.close, closing_one hrest]
    | char hmarks hp hpiece htext =>
      rw [hread.one, ih]
      · rfl
      · exact Or.inl fun h => hp (Option.some.inj h)
    | mark htext =>
      rw [List.cons_append]
      cases htext with
      | nil hmarks =>
        rw [List.nil_append, hread.close, closing_two]
      | char hmarks hp hpiece htext =>
        rw [List.cons_append] at ih
        rw [hread.one, ih]
        · rfl
        · exact Or.inr fun h => hp (Option.some.inj h)
      | mark htext =>
        have hmarks := htext.marks_le
        omega

end Spelling

theorem spelling_escapeText (cs : List Char) :
    ∀ {marks : Nat}, marks ≤ 2 →
      Spelling (longBasicText (.plain false)) '"' marks cs (escapeText true marks cs) := by
  induction cs with
  | nil => exact fun hmarks => .nil hmarks
  | cons c cs ih =>
    intro marks hmarks
    rw [escapeText]
    by_cases hmark : c = '"'
    · subst hmark
      rw [if_pos rfl]
      -- The writer counts marks as the relation does, and escapes the third of a run.
      by_cases hraw : marks < 2
      · rw [if_pos ⟨rfl, hraw⟩]
        exact .mark (ih hraw)
      · rw [if_neg fun h => hraw h.2]
        show Spelling _ '"' marks ('"' :: cs) (['\\', '"'] ++ escapeText true 0 cs)
        refine .char hmarks (by decide) (fun tail => ?_) (ih (by omega))
        show longBasicText (.plain false) ('\\' :: '"' :: tail) = _
        rw [readsEscapes_longBasicText.backslash, readsEscapes_longBasicText.letter tail rfl]
    · rw [if_neg hmark]
      obtain ⟨p, ps, hpiece, hp, -⟩ := escapeChar_eq_cons true hmark
      have hread := readsEscapes_longBasicText.escapeChar true hmark fun _ tail => by
        rw [longBasicText.eq_def]
        simp
      rw [hpiece] at hread ⊢
      exact .char hmarks hp hread (ih (by omega))

theorem spelling_self {cs : List Char} :
    ∀ {marks : Nat}, longestRun '\'' marks cs ≤ 2 → (∀ c ∈ cs, needsEscape c = false) →
      Spelling longLiteralText '\'' marks cs cs := by
  induction cs with
  | nil => exact fun hrun _ => .nil hrun
  | cons c cs ih =>
    intro marks hrun hplain
    obtain ⟨hc, hcs⟩ := List.forall_mem_cons.1 hplain
    rw [longestRun] at hrun
    by_cases hmark : c = '\''
    · subst hmark
      rw [if_pos rfl] at hrun
      exact .mark (ih hrun hcs)
    · rw [if_neg hmark] at hrun
      have hread : ∀ tail, longLiteralText (c :: tail) = .cons c (longLiteralText tail) := by
        intro tail
        have hreturn : c ≠ '\r' := by
          rintro rfl
          exact absurd hc (by decide)
        have hchar : c = '\n' ∨ isTextChar c = true := by
          by_cases hline : c = '\n'
          · exact Or.inl hline
          · exact Or.inr (isTextChar_of_needsEscape hc hline)
        rw [longLiteralText.eq_def]
        simp [hmark, hreturn, hchar]
      show Spelling _ '\'' marks (c :: cs) ([c] ++ cs)
      exact .char (by omega) hmark hread (ih (by omega) hcs)

/-! ## Texts in their forms -/

/-! ### What the choice of a form says -/

theorem le_longestRun (mark : Char) (cs : List Char) (n : Nat) : n ≤ longestRun mark n cs := by
  induction cs generalizing n with
  | nil => exact Nat.le_refl n
  | cons c cs ih =>
    rw [longestRun]
    split
    · exact Nat.le_of_succ_le (ih (n + 1))
    · exact Nat.le_max_left n _

theorem ne_of_longestRun_eq_zero {mark : Char} {cs : List Char} (h : longestRun mark 0 cs = 0) :
    ∀ c ∈ cs, c ≠ mark := by
  induction cs with
  | nil => simp
  | cons c cs ih =>
    rw [longestRun] at h
    by_cases hc : c = mark
    · have hone := le_longestRun mark cs (0 + 1)
      rw [if_pos hc] at h
      omega
    · rw [if_neg hc] at h
      exact List.forall_mem_cons.2 ⟨hc, ih (by omega)⟩

theorem of_textForm_literal {cs : List Char} (h : textForm cs = .literal) :
    ∀ c ∈ cs, isTextChar c = true ∧ c ≠ '\'' := by
  unfold textForm at h
  simp only [] at h
  split_ifs at h with h₁ h₂
  simp only [Bool.and_eq_true, Bool.not_eq_true', beq_iff_eq, List.any_eq_false,
    List.contains_eq_mem, decide_eq_false_iff_not, Bool.not_eq_true] at h₂
  obtain ⟨⟨hplain, hmarks⟩, hline⟩ := h₂
  intro c hc
  have hc_line : c ≠ '\n' := fun h => hline (h ▸ hc)
  exact ⟨isTextChar_of_needsEscape (hplain c hc) hc_line, ne_of_longestRun_eq_zero hmarks c hc⟩

theorem of_textForm_longLiteral {cs : List Char} (h : textForm cs = .longLiteral) :
    (∀ c ∈ cs, needsEscape c = false) ∧ longestRun '\'' 0 cs ≤ 2 := by
  unfold textForm at h
  simp only [] at h
  split_ifs at h with h₁ h₂ h₃ h₄
  simpa only [Bool.and_eq_true, Bool.not_eq_true', List.any_eq_false, decide_eq_true_eq,
    Bool.not_eq_true] using h₄

/-! ### Openings -/

theorem readText_basic {tail : List Char}
    (h : tail.head? ≠ some '"' ∨ tail.tail.head? ≠ some '"') :
    readText ('"' :: tail) = basicText (.plain false) tail := by
  rw [readText.eq_def]
  split <;> simp_all

theorem readText_literal {tail : List Char}
    (h : tail.head? ≠ some '\'' ∨ tail.tail.head? ≠ some '\'') :
    readText ('\'' :: tail) = literalText tail := by
  rw [readText.eq_def]
  split <;> simp_all

/-- After an opening, a line feed is dropped just if one was written there. -/
theorem dropLineEnd_opening (cs : List Char) {written : List Char}
    (h : ∀ c ∈ written.head?, c ≠ '\r' ∧ (c = '\n' → '\n' ∈ cs)) :
    dropLineEnd ((if cs.contains '\n' then ['\n'] else []) ++ written) = written := by
  by_cases hline : '\n' ∈ cs
  · simp [hline, dropLineEnd]
  · simp only [List.contains_eq_mem, hline, decide_false, Bool.false_eq_true, if_false,
      List.nil_append]
    unfold dropLineEnd
    split
    · exact absurd ((h '\n' rfl).2 rfl) hline
    · exact absurd rfl (h '\r' rfl).1
    · rfl

/-- What is written inside a basic string on one line starts with no mark. -/
theorem escapeText_eq_cons (c : Char) (cs : List Char) :
    ∃ p ps, escapeText false 0 (c :: cs) = p :: ps ∧ p ≠ '"' := by
  rw [escapeText]
  by_cases hmark : c = '"'
  · rw [if_pos hmark]
    exact ⟨'\\', _, rfl, by decide⟩
  · obtain ⟨p, ps, hpiece, hp, -⟩ := escapeChar_eq_cons false hmark
    rw [if_neg hmark, hpiece]
    exact ⟨p, _, rfl, hp⟩

/-- What is written inside a basic string over several lines starts with no carriage return, and
with a line feed only if the text has one. -/
theorem head?_escapeText (cs rest : List Char) :
    ∀ c ∈ (escapeText true 0 cs ++ '"' :: rest).head?, c ≠ '\r' ∧ (c = '\n' → '\n' ∈ cs) := by
  intro p hp
  cases cs with
  | nil =>
    obtain rfl : '"' = p := Option.some.inj hp
    decide
  | cons c cs =>
    rw [escapeText] at hp
    by_cases hmark : c = '"'
    · rw [if_pos hmark, if_pos ⟨rfl, Nat.zero_lt_two⟩] at hp
      obtain rfl : '"' = p := Option.some.inj hp
      exact ⟨by decide, fun h => absurd h (by decide)⟩
    · obtain ⟨q, qs, hpiece, -, hreturn, hline⟩ := escapeChar_eq_cons true hmark
      rw [if_neg hmark, hpiece] at hp
      obtain rfl : q = p := Option.some.inj hp
      exact ⟨hreturn, fun h => hline h ▸ List.mem_cons_self⟩

/-! ### Reading back -/

/-- Whether no mark follows. -/
def NoMark (rest : List Char) : Prop := rest.head? ≠ some '"' ∧ rest.head? ≠ some '\''

section

variable {rest : List Char} (hrest : NoMark rest)

include hrest

theorem readText_basicForm (cs : List Char) :
    readText ('"' :: escapeText false 0 cs ++ ['"'] ++ rest) = some (cs, rest) := by
  have hopening : (escapeText false 0 cs ++ '"' :: rest).head? ≠ some '"' ∨
      (escapeText false 0 cs ++ '"' :: rest).tail.head? ≠ some '"' := by
    cases cs with
    | nil => exact Or.inr hrest.1
    | cons c cs =>
      obtain ⟨p, ps, hwritten, hp⟩ := escapeText_eq_cons c cs
      rw [hwritten]
      exact Or.inl fun h => hp (Option.some.inj h)
  rw [List.append_assoc, List.cons_append, List.singleton_append, readText_basic hopening,
    basicText_escapeText]

theorem readText_literalForm {cs : List Char} (h : ∀ c ∈ cs, isTextChar c = true ∧ c ≠ '\'') :
    readText ('\'' :: cs ++ ['\''] ++ rest) = some (cs, rest) := by
  have hopening : (cs ++ '\'' :: rest).head? ≠ some '\'' ∨
      (cs ++ '\'' :: rest).tail.head? ≠ some '\'' := by
    cases cs with
    | nil => exact Or.inr hrest.2
    | cons c cs => exact Or.inl fun heq => (h c List.mem_cons_self).2 (Option.some.inj heq)
  rw [List.append_assoc, List.cons_append, List.singleton_append, readText_literal hopening,
    literalText_append rest h]

theorem readText_longBasicForm (cs : List Char) :
    readText (['"', '"', '"'] ++ (if cs.contains '\n' then ['\n'] else [])
      ++ escapeText true 0 cs ++ ['"', '"', '"'] ++ rest) = some (cs, rest) := by
  have hopening := dropLineEnd_opening cs (head?_escapeText cs ('"' :: '"' :: rest))
  have hspelling := spelling_escapeText cs (Nat.zero_le 2)
  simp only [List.append_assoc]
  show longBasicText (.plain false)
    (dropLineEnd (_ ++ (escapeText true 0 cs ++ '"' :: '"' :: '"' :: rest))) = _
  rw [hopening]
  exact hspelling.read_append readsMarks_longBasicText hrest.1

theorem readText_longLiteralForm {cs : List Char} (hplain : ∀ c ∈ cs, needsEscape c = false)
    (hrun : longestRun '\'' 0 cs ≤ 2) :
    readText (['\'', '\'', '\''] ++ (if cs.contains '\n' then ['\n'] else [])
      ++ cs ++ ['\'', '\'', '\''] ++ rest) = some (cs, rest) := by
  have hfirst : ∀ c ∈ (cs ++ '\'' :: '\'' :: '\'' :: rest).head?,
      c ≠ '\r' ∧ (c = '\n' → '\n' ∈ cs) := by
    intro p hp
    cases cs with
    | nil =>
      obtain rfl : '\'' = p := Option.some.inj hp
      decide
    | cons c cs =>
      obtain rfl : c = p := Option.some.inj hp
      refine ⟨?_, fun h => h ▸ List.mem_cons_self⟩
      rintro rfl
      exact absurd (hplain '\r' List.mem_cons_self) (by decide)
  simp only [List.append_assoc]
  show longLiteralText (dropLineEnd (_ ++ (cs ++ '\'' :: '\'' :: '\'' :: rest))) = _
  rw [dropLineEnd_opening cs hfirst]
  exact (spelling_self hrun hplain).read_append readsMarks_longLiteralText hrest.2

/-- A written text is read back, whatever it holds, and what follows it is left. -/
theorem readText_writeText (text : String) :
    readText ((writeText text).toList ++ rest) = some (text.toList, rest) := by
  unfold writeText
  simp only [String.toList_ofList]
  cases hform : textForm text.toList with
  | basic => exact readText_basicForm hrest text.toList
  | literal => exact readText_literalForm hrest (of_textForm_literal hform)
  | longBasic => exact readText_longBasicForm hrest text.toList
  | longLiteral =>
    obtain ⟨hplain, hrun⟩ := of_textForm_longLiteral hform
    exact readText_longLiteralForm hrest hplain hrun

end

/-- A written text starts with a mark. -/
theorem writeText_eq_cons (text : String) :
    ∃ c cs, (writeText text).toList = c :: cs ∧ (c = '"' ∨ c = '\'') := by
  unfold writeText
  simp only [String.toList_ofList]
  cases textForm text.toList with
  | basic => exact ⟨_, _, rfl, Or.inl rfl⟩
  | literal => exact ⟨_, _, rfl, Or.inr rfl⟩
  | longBasic => exact ⟨_, _, rfl, Or.inl rfl⟩
  | longLiteral => exact ⟨_, _, rfl, Or.inr rfl⟩

end HelpQuery.Toml
