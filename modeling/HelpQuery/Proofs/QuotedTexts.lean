import HelpQuery.Text.Quoted
import Mathlib.Data.List.Basic
import Mathlib.Data.List.Chain
import Mathlib.Data.List.Induction

/-!
# Quoted texts

A quoted text is read back character by character, and no line feed stands in it.  A quotation mark
inside has a backslash before it, so the mark that opens the last text on a line is found from its
end, whatever stands in front:

    front ++ x :: quote a = front' ++ y :: quote b → front = front' ∧ x = y ∧ a = b
                                                            unless x or y is a backslash
-/

namespace HelpQuery.Text

/-! ## One character -/

/-- The whole number that digits of base sixteen stand for. -/
def hexValue (ds : List Char) : Nat :=
  ds.foldl (fun n d =>
    16 * n + if d.isDigit then d.toNat - '0'.toNat else d.toNat - 'a'.toNat + 10) 0

theorem hexValue_hexDigits (n : Nat) : hexValue (hexDigits n) = n := by
  have hdigit : ∀ d < 16, hexValue [Nat.digitChar d] = d := by decide
  induction n using Nat.strongRecOn with
  | ind n ih =>
    rw [hexDigits]
    rcases Nat.lt_or_ge n 16 with hn | hn
    · rw [Nat.toDigits_of_lt_base hn]
      exact hdigit n hn
    · rw [Nat.toDigits_of_base_le (by decide) hn, hexValue, List.foldl_append]
      have hfront := ih (n / 16) (Nat.div_lt_self (by omega) (by decide))
      have hlast := hdigit (n % 16) (Nat.mod_lt n (by decide))
      simp only [hexValue, hexDigits, List.foldl_cons, List.foldl_nil] at hfront hlast ⊢
      rw [hfront]
      omega

theorem mem_hexDigits {n : Nat} {d : Char} (h : d ∈ hexDigits n) :
    d ∈ "0123456789abcdef".toList := by
  have hdigit : ∀ d < 16, Nat.digitChar d ∈ "0123456789abcdef".toList := by decide
  induction n using Nat.strongRecOn with
  | ind n ih =>
    rw [hexDigits] at h
    rcases Nat.lt_or_ge n 16 with hn | hn
    · rw [Nat.toDigits_of_lt_base hn, List.mem_singleton] at h
      rw [h]
      exact hdigit n hn
    · rw [Nat.toDigits_of_base_le (by decide) hn, List.mem_append, List.mem_singleton] at h
      rcases h with h | rfl
      · exact ih (n / 16) (Nat.div_lt_self (by omega) (by decide)) h
      · exact hdigit (n % 16) (Nat.mod_lt n (by decide))

theorem ne_of_mem_hexDigits {n : Nat} {c d : Char} (hc : c ∉ "0123456789abcdef".toList)
    (h : d ∈ hexDigits n) : d ≠ c := by
  rintro rfl
  exact hc (mem_hexDigits h)

/-- The character at the start of an escaped text, and what follows it. -/
def unquoteChar? : List Char → Option (Char × List Char)
  | [] => none
  | '\\' :: 'u' :: '\x7b' :: rest =>
    some (Char.ofNat (hexValue (rest.takeWhile (· != '\x7d'))),
      (rest.dropWhile (· != '\x7d')).drop 1)
  | '\\' :: c :: rest =>
    ([('"', '"'), ('\\', '\\'), ('n', '\n'), ('r', '\r'), ('t', '\t'), ('0', '\x00')].lookup c).map
      (·, rest)
  | c :: rest => some (c, rest)

/-- The escape of a code point ends at the brace that follows its digits. -/
theorem unquoteChar?_codePoint (c : Char) (rest : List Char) :
    unquoteChar? (['\\', 'u', '\x7b'] ++ hexDigits c.toNat ++ ['\x7d'] ++ rest) =
      some (c, rest) := by
  have hdigits : ∀ d ∈ hexDigits c.toNat, (d != '\x7d') = true := fun d hd =>
    bne_iff_ne.2 (ne_of_mem_hexDigits (by decide) hd)
  have hbrace : ¬ ('\x7d' != '\x7d') = true := by decide
  show unquoteChar? ('\\' :: 'u' :: '\x7b' :: (hexDigits c.toNat ++ ['\x7d'] ++ rest)) = _
  rw [unquoteChar?, List.append_assoc, List.takeWhile_append_of_pos hdigits,
    List.dropWhile_append_of_pos hdigits, List.singleton_append,
    List.takeWhile_cons_of_neg (p := (· != '\x7d')) hbrace,
    List.dropWhile_cons_of_neg (p := (· != '\x7d')) hbrace, List.append_nil,
    hexValue_hexDigits, Char.ofNat_toNat]
  rfl

theorem unquoteChar?_quoteChar (c : Char) (rest : List Char) :
    unquoteChar? (quoteChar c ++ rest) = some (c, rest) := by
  unfold quoteChar
  split
  · rfl
  · rfl
  · rfl
  · rfl
  · rfl
  · rfl
  · next hslash _ _ _ _ =>
    split
    · rw [List.singleton_append, unquoteChar?.eq_def]
      split
      · next h => cases h
      · next h => exact absurd (List.cons.inj h).1 hslash
      · next h => exact absurd (List.cons.inj h).1 hslash
      · next h => rw [(List.cons.inj h).1, (List.cons.inj h).2]
    · exact unquoteChar?_codePoint c rest

/-- Escaped texts can be told apart, character by character. -/
theorem flatMap_quoteChar_inj {a b : List Char} (h : a.flatMap quoteChar = b.flatMap quoteChar) :
    a = b := by
  induction a generalizing b with
  | nil =>
    cases b with
    | nil => rfl
    | cons d b =>
      have hread := unquoteChar?_quoteChar d (b.flatMap quoteChar)
      rw [← List.flatMap_cons, ← h] at hread
      cases hread
  | cons c a ih =>
    have hread := unquoteChar?_quoteChar c (a.flatMap quoteChar)
    rw [← List.flatMap_cons, h] at hread
    cases b with
    | nil => cases hread
    | cons d b =>
      rw [List.flatMap_cons, unquoteChar?_quoteChar] at hread
      obtain ⟨rfl, hrest⟩ := Prod.mk.inj (Option.some.inj hread)
      rw [ih hrest.symm]

/-! ## Quotation marks and line feeds inside -/

/-- A quotation mark stands behind a backslash. -/
def Guarded (a b : Char) : Prop := b = '"' → a = '\\'

/-- A character is escaped by two or more characters behind a backslash, or is not escaped. -/
theorem quoteChar_cases (c : Char) :
    (∃ d rest, quoteChar c = '\\' :: d :: rest ∧ '"' ∉ rest ∧ '\n' ∉ d :: rest) ∨
      quoteChar c = [c] ∧ c ≠ '"' ∧ c ≠ '\n' := by
  unfold quoteChar
  split
  · exact Or.inl ⟨'"', [], rfl, by decide, by decide⟩
  · exact Or.inl ⟨'\\', [], rfl, by decide, by decide⟩
  · exact Or.inl ⟨'n', [], rfl, by decide, by decide⟩
  · exact Or.inl ⟨'r', [], rfl, by decide, by decide⟩
  · exact Or.inl ⟨'t', [], rfl, by decide, by decide⟩
  · exact Or.inl ⟨'0', [], rfl, by decide, by decide⟩
  · next hmark _ hline _ _ _ =>
    split
    · exact Or.inr ⟨rfl, hmark, hline⟩
    · have hfree : ∀ e ∈ hexDigits c.toNat, e ≠ '"' ∧ e ≠ '\n' := fun e he =>
        ⟨ne_of_mem_hexDigits (by decide) he, ne_of_mem_hexDigits (by decide) he⟩
      refine Or.inl ⟨'u', '\x7b' :: hexDigits c.toNat ++ ['\x7d'], rfl, ?_, ?_⟩
      · simpa using fun hin => (hfree _ hin).1 rfl
      · simpa using fun hin => (hfree _ hin).2 rfl

/-- Every quotation mark in an escaped text stands behind a backslash. -/
theorem isChain_guarded (a : Char) (cs : List Char) :
    List.IsChain Guarded (a :: cs.flatMap quoteChar) := by
  induction cs generalizing a with
  | nil => exact .singleton a
  | cons c cs ih =>
    rw [List.flatMap_cons]
    rcases quoteChar_cases c with ⟨d, rest, hquote, hrest, -⟩ | ⟨hquote, hmark, -⟩
    · have hlast : ∀ e, List.IsChain Guarded (e :: (rest ++ cs.flatMap quoteChar)) := by
        clear hquote
        induction rest with
        | nil => exact ih
        | cons r rest ihrest =>
          obtain ⟨hr, hrest⟩ := not_or.1 (mt List.mem_cons.2 hrest)
          exact fun e => .cons_cons (fun h => absurd h.symm hr) (ihrest hrest r)
      rw [hquote]
      exact .cons_cons (fun h => absurd h (by decide)) (.cons_cons (fun _ => rfl) (hlast d))
    · rw [hquote]
      exact .cons_cons (fun h => absurd h hmark) (ih c)

theorem lineFeed_not_mem_quote (text : String) : '\n' ∉ (quote text).toList := by
  rw [quote, String.toList_ofList]
  simp only [List.mem_cons, List.mem_append, List.mem_flatMap]
  rintro ((h | ⟨c, -, hc⟩) | h)
  · exact absurd h (by decide)
  · rcases quoteChar_cases c with ⟨d, rest, hquote, -, hline⟩ | ⟨hquote, -, hline⟩
    · rw [hquote] at hc
      exact (List.mem_cons.1 hc).elim (by decide) hline
    · rw [hquote] at hc
      exact hline (List.mem_singleton.1 hc).symm
  · revert h
    decide

/-! ## The last text on a line -/

theorem toList_quote (text : String) :
    (quote text).toList = '"' :: text.toList.flatMap quoteChar ++ ['"'] := by
  rw [quote, String.toList_ofList]

/-- No opening mark stands behind the opening mark of a text. -/
theorem eq_nil_of_marks {front a b : List Char} {x y : Char} (hy : y ≠ '\\')
    (h : x :: '"' :: a.flatMap quoteChar = front ++ y :: '"' :: b) : front = [] := by
  cases front with
  | nil => rfl
  | cons z front =>
    have hchain := isChain_guarded '"' a
    have hrest : '"' :: a.flatMap quoteChar = front ++ y :: '"' :: b := (List.cons.inj h).2
    rw [hrest, List.isChain_append_cons_cons] at hchain
    exact absurd (hchain.2.1 rfl) hy

/-- The last quoted text is found from its end. -/
theorem last_quote_inj {front front' : List Char} {x y : Char} {a b : String} (hx : x ≠ '\\')
    (hy : y ≠ '\\') (h : front ++ x :: (quote a).toList = front' ++ y :: (quote b).toList) :
    front = front' ∧ x = y ∧ a = b := by
  have htexts : front ++ x :: '"' :: a.toList.flatMap quoteChar =
      front' ++ y :: '"' :: b.toList.flatMap quoteChar := by
    rw [toList_quote, toList_quote, ← List.cons_append, ← List.cons_append, ← List.append_assoc,
      ← List.append_assoc] at h
    exact List.append_cancel_right h
  have hsame : ∀ {x y : Char} {a b : String}, x :: '"' :: a.toList.flatMap quoteChar =
      y :: '"' :: b.toList.flatMap quoteChar → x = y ∧ a = b := by
    intro x y a b h
    obtain ⟨hxy, h⟩ := List.cons.inj h
    exact ⟨hxy, String.toList_inj.1 (flatMap_quoteChar_inj (List.cons.inj h).2)⟩
  rcases List.append_eq_append_iff.1 htexts with ⟨more, rfl, hmore⟩ | ⟨more, rfl, hmore⟩
  · obtain rfl := eq_nil_of_marks hy hmore
    exact ⟨(List.append_nil front).symm, hsame hmore⟩
  · obtain rfl := eq_nil_of_marks hx hmore
    exact ⟨List.append_nil front', (hsame hmore).1.symm, (hsame hmore).2.symm⟩

/-! ## Lists of texts -/

theorem intercalate_concat {α : Type} (between : List α) (xs : List (List α)) (x : List α) :
    between.intercalate (xs ++ [x]) =
      (if xs = [] then [] else between.intercalate xs ++ between) ++ x := by
  induction xs with
  | nil => simp
  | cons y xs ih =>
    cases xs with
    | nil => simp [List.intercalate_cons_cons]
    | cons z xs =>
      rw [List.cons_append, List.cons_append, List.intercalate_cons_cons, ← List.cons_append, ih,
        if_neg (List.cons_ne_nil z xs), if_neg (List.cons_ne_nil y _), List.intercalate_cons_cons]
      simp only [List.append_assoc]

/-- A list up to its closing bracket, behind a colon. -/
def openList (texts : List String) : List Char :=
  [':', '['] ++ [',', ' '].intercalate (texts.map fun text => (quote text).toList)

theorem toList_quoteList (texts : List String) :
    ':' :: (quoteList texts).toList = openList texts ++ [']'] := by
  simp only [quoteList, openList, String.toList_append, String.toList_intercalate, List.map_map]
  rfl

/-- The last text of a list stands behind the opening bracket or a space. -/
theorem openList_concat (texts : List String) (text : String) :
    openList (texts ++ [text]) = (if texts = [] then [':'] else openList texts ++ [',']) ++
      (if texts = [] then '[' else ' ') :: (quote text).toList := by
  rw [openList, List.map_append, List.map_singleton, intercalate_concat]
  by_cases h : texts = []
  · simp [h]
  · simp [h, openList]

theorem lineFeed_not_mem_quoteList (texts : List String) : '\n' ∉ (quoteList texts).toList := by
  have hopen : '\n' ∉ openList texts := by
    induction texts using List.reverseRecOn with
    | nil => decide
    | append_singleton texts text ih =>
      rw [openList_concat]
      split <;> simp [ih, lineFeed_not_mem_quote]
  intro h
  have hin : '\n' ∈ openList texts ++ [']'] := by
    rw [← toList_quoteList]
    exact List.mem_cons_of_mem ':' h
  rcases List.mem_append.1 hin with hin | hin
  · exact hopen hin
  · revert hin
    decide

theorem openList_concat_ne (front front' : List Char) (texts : List String) (text : String) :
    front ++ openList [] ≠ front' ++ openList (texts ++ [text]) := by
  intro h
  have hend : front' ++ openList (texts ++ [text]) =
      (front' ++ ((if texts = [] then [':'] else openList texts ++ [',']) ++
        (if texts = [] then '[' else ' ') :: '"' :: text.toList.flatMap quoteChar)) ++ ['"'] := by
    rw [openList_concat, toList_quote]
    simp only [List.append_assoc, List.cons_append]
  have hlast := congrArg List.getLast? (h.trans hend)
  rw [List.getLast?_concat] at hlast
  simp [openList] at hlast

/-- The last list on a line is found from its end, text by text. -/
theorem last_openList_inj {front front' : List Char} {a b : List String}
    (h : front ++ openList a = front' ++ openList b) : front = front' ∧ a = b := by
  induction a using List.reverseRecOn generalizing b with
  | nil =>
    rcases List.eq_nil_or_concat' b with rfl | ⟨b, t, rfl⟩
    · exact ⟨List.append_cancel_right h, rfl⟩
    · exact absurd h (openList_concat_ne front front' b t)
  | append_singleton a s ih =>
    rcases List.eq_nil_or_concat' b with rfl | ⟨b, t, rfl⟩
    · exact absurd h.symm (openList_concat_ne front' front a s)
    · have hsep : ∀ texts : List String, (if texts = [] then '[' else ' ') ≠ '\\' := by
        intro texts
        split <;> decide
      rw [openList_concat, openList_concat, ← List.append_assoc, ← List.append_assoc] at h
      obtain ⟨hfront, hsame, rfl⟩ := last_quote_inj (hsep a) (hsep b) h
      by_cases ha : a = []
      · have hb : b = [] := by
          by_contra hb
          rw [if_pos ha, if_neg hb] at hsame
          exact absurd hsame (by decide)
        rw [if_pos ha, if_pos hb] at hfront
        exact ⟨List.append_cancel_right hfront, by rw [ha, hb]⟩
      · have hb : b ≠ [] := by
          intro hb
          rw [if_neg ha, if_pos hb] at hsame
          exact absurd hsame (by decide)
        rw [if_neg ha, if_neg hb, ← List.append_assoc, ← List.append_assoc] at hfront
        obtain ⟨rfl, rfl⟩ := ih (List.append_cancel_right hfront)
        exact ⟨rfl, rfl⟩

end HelpQuery.Text
