import HelpQuery.Json.Value
import HelpQuery.Proofs.WrittenNumbers
import HelpQuery.Toml.Text

/-!
# The JSON grammar

Blanks may stand between all parts of a JSON text, characters of a string may be escaped, and a
number is a numeral of decimal notation.  The written forms of a value are those of its entries, put
together as the value is.  A string ends at the first quotation mark that is not escaped, and a
number holds nothing that can follow it.

    StringText s a, StringText t b, a ++ rest = b ++ rest' → s = t ∧ a = b ∧ rest = rest'
-/

namespace HelpQuery.Json

/-! ## Grammar -/

/-- A space, a tab, a line feed or a carriage return. -/
def isBlank (c : Char) : Bool := c == ' ' || c == '\t' || c == '\n' || c == '\r'

/-- What may stand between the parts of a text. -/
def Blanks (cs : List Char) : Prop := ∀ c ∈ cs, isBlank c = true

/-- A numeral: a sign, a whole part without a zero in front, a fraction and an exponent. -/
inductive NumberText : List Char → Prop where
  | mk {sign whole fraction exponent : List Char} (hsign : sign = [] ∨ sign = ['-'])
    (hwhole : DigitRun whole) (hzero : whole.head? = some '0' → whole = ['0'])
    (hfraction : fraction = [] ∨ ∃ ds, DigitRun ds ∧ fraction = '.' :: ds)
    (hexponent : exponent = [] ∨ ∃ e plus ds, e ∈ ['e', 'E'] ∧ plus ∈ [[], ['+'], ['-']] ∧
      DigitRun ds ∧ exponent = e :: plus ++ ds) :
    NumberText (sign ++ whole ++ fraction ++ exponent)

/-- The escapes of one letter. -/
def shortEscapes : List (Char × Char) :=
  [('"', '"'), ('\\', '\\'), ('/', '/'), ('b', '\x08'), ('f', '\x0c'), ('n', '\n'), ('r', '\r'),
   ('t', '\t')]

/-- The value of four digits of base sixteen. -/
def codeUnit? (ds : List Char) : Option Nat :=
  if ds.length = 4 then (ds.mapM Toml.hexValue?).map (·.foldl (16 * · + ·) 0) else none

/-- The character of two code units. -/
def pairChar (high low : Nat) : Char :=
  Char.ofNat (0x10000 + 0x400 * (high - 0xD800) + (low - 0xDC00))

/-- The spellings of a character inside a string. -/
inductive CharText : Char → List Char → Prop where
  | plain {c : Char} (hcontrol : 0x20 ≤ c.toNat) (hmark : c ≠ '"') (hslash : c ≠ '\\') :
    CharText c [c]
  | short {e c : Char} (h : shortEscapes.lookup e = some c) : CharText c ['\\', e]
  | unit {ds : List Char} {n : Nat} (h : codeUnit? ds = some n) (hn : n.isValidChar) :
    CharText (Char.ofNat n) ('\\' :: 'u' :: ds)
  | pair {ds ds' : List Char} {high low : Nat} (h : codeUnit? ds = some high)
    (h' : codeUnit? ds' = some low) (hhigh : 0xD800 ≤ high ∧ high < 0xDC00)
    (hlow : 0xDC00 ≤ low ∧ low < 0xE000) :
    CharText (pairChar high low) ('\\' :: 'u' :: ds ++ '\\' :: 'u' :: ds')

/-- The characters of a text between quotation marks. -/
def StringText (text : String) (cs : List Char) : Prop :=
  ∃ spellings, List.Forall₂ CharText text.toList spellings ∧
    cs = '"' :: spellings.flatten ++ ['"']

/-- A form with blanks around it. -/
def Padded (form : List Char → Prop) (cs : List Char) : Prop :=
  ∃ before text after, Blanks before ∧ form text ∧ Blanks after ∧ cs = before ++ text ++ after

/-- Entries that each follow a comma. -/
def MoreEntries : List (List Char → Prop) → List Char → Prop
  | [], cs => cs = []
  | form :: forms, cs => ∃ entry more, Padded form entry ∧ MoreEntries forms more ∧
    cs = ',' :: entry ++ more

/-- Entries separated by commas. -/
def Entries : List (List Char → Prop) → List Char → Prop
  | [], cs => Blanks cs
  | form :: forms, cs => ∃ entry more, Padded form entry ∧ MoreEntries forms more ∧
    cs = entry ++ more

/-- A key and a value with a colon between them. -/
def MemberText (key : String) (form : List Char → Prop) (cs : List Char) : Prop :=
  ∃ name before after text, StringText key name ∧ Blanks before ∧ Blanks after ∧ form text ∧
    cs = name ++ before ++ ':' :: after ++ text

mutual

/-- Whether a text is a written form of the value. -/
def WrittenAs : Json → List Char → Prop
  | null => fun cs => cs = "null".toList
  | bool b => fun cs => cs = (if b then "true" else "false").toList
  | number text => fun cs => cs = text.toList ∧ NumberText cs
  | string text => StringText text
  | array items => fun cs => ∃ body, Entries (itemForms items) body ∧ cs = '[' :: body ++ [']']
  | object members => fun cs =>
    ∃ body, Entries (memberForms members) body ∧ cs = '\x7b' :: body ++ ['\x7d']

/-- The written forms of each item. -/
def itemForms : List Json → List (List Char → Prop)
  | [] => []
  | item :: rest => item.WrittenAs :: itemForms rest

/-- The written forms of each member. -/
def memberForms : List (String × Json) → List (List Char → Prop)
  | [] => []
  | (key, value) :: rest => MemberText key value.WrittenAs :: memberForms rest

end

/-- Whether a whole text is one of the value. -/
def TextOf (text : String) (value : Json) : Prop := Padded value.WrittenAs text.toList

theorem itemForms_eq_map (items : List Json) : itemForms items = items.map WrittenAs := by
  induction items with
  | nil => rfl
  | cons item items ih => rw [itemForms, ih, List.map_cons]

theorem memberForms_eq_map (members : List (String × Json)) :
    memberForms members = members.map fun m => MemberText m.1 m.2.WrittenAs := by
  induction members with
  | nil => rfl
  | cons m members ih => rw [memberForms, ih, List.map_cons]

/-! ## Induction over values -/

mutual

/-- A value is plain, or has entries of which the property may be assumed. -/
@[elab_as_elim]
theorem induction_entries {motive : Json → Prop} (null : motive null)
    (bool : ∀ b, motive (bool b)) (number : ∀ text, motive (number text))
    (string : ∀ text, motive (string text))
    (array : ∀ items, (∀ v ∈ items, motive v) → motive (array items))
    (object : ∀ members, (∀ m ∈ members, motive m.2) → motive (object members)) (value : Json) :
    motive value := by
  match value with
  | .null => exact null
  | .bool b => exact bool b
  | .number text => exact number text
  | .string text => exact string text
  | .array items =>
    exact array items (forall_items null bool number string array object items)
  | .object members =>
    exact object members (forall_members null bool number string array object members)

theorem forall_items {motive : Json → Prop} (null : motive null)
    (bool : ∀ b, motive (bool b)) (number : ∀ text, motive (number text))
    (string : ∀ text, motive (string text))
    (array : ∀ items, (∀ v ∈ items, motive v) → motive (array items))
    (object : ∀ members, (∀ m ∈ members, motive m.2) → motive (object members))
    (items : List Json) : ∀ v ∈ items, motive v := by
  match items with
  | [] => simp
  | item :: rest =>
    exact List.forall_mem_cons.2 ⟨induction_entries null bool number string array object item,
      forall_items null bool number string array object rest⟩

theorem forall_members {motive : Json → Prop} (null : motive null)
    (bool : ∀ b, motive (bool b)) (number : ∀ text, motive (number text))
    (string : ∀ text, motive (string text))
    (array : ∀ items, (∀ v ∈ items, motive v) → motive (array items))
    (object : ∀ members, (∀ m ∈ members, motive m.2) → motive (object members))
    (members : List (String × Json)) : ∀ m ∈ members, motive m.2 := by
  match members with
  | [] => simp
  | (key, value) :: rest =>
    exact List.forall_mem_cons.2 ⟨induction_entries null bool number string array object value,
      forall_members null bool number string array object rest⟩

end

/-! ## Where a run ends -/

/-- Equal lists are the same up to the first element that leaves a run. -/
theorem run_append_inj {α : Type} {p : α → Bool} {a b rest rest' : List α}
    (ha : ∀ x ∈ a, p x = true) (hb : ∀ x ∈ b, p x = true) (hrest : ∀ x ∈ rest.head?, p x = false)
    (hrest' : ∀ x ∈ rest'.head?, p x = false) (h : a ++ rest = b ++ rest') :
    a = b ∧ rest = rest' := by
  have hrun : ∀ {a rest : List α}, (∀ x ∈ a, p x = true) → (∀ x ∈ rest.head?, p x = false) →
      (a ++ rest).takeWhile p = a := by
    intro a rest ha hrest
    rw [List.takeWhile_append_of_pos ha]
    cases rest with
    | nil => simp
    | cons x rest =>
      rw [List.takeWhile_cons_of_neg (by rw [hrest x rfl]; exact Bool.false_ne_true),
        List.append_nil]
  have hsame : a = b := by rw [← hrun ha hrest, h, hrun hb hrest']
  rw [hsame] at h
  exact ⟨hsame, List.append_cancel_left h⟩

/-! ## Strings -/

/-- The character at the start of what stands inside a string, and what follows it. -/
def readChar? : List Char → Option (Char × List Char)
  | '\\' :: 'u' :: rest =>
    (codeUnit? (rest.take 4)).bind fun n =>
      if n.isValidChar then some (Char.ofNat n, rest.drop 4)
      else
        match rest.drop 4 with
        | '\\' :: 'u' :: more =>
          (codeUnit? (more.take 4)).map fun low => (pairChar n low, more.drop 4)
        | _ => none
  | '\\' :: e :: rest => (shortEscapes.lookup e).map (·, rest)
  | c :: rest => some (c, rest)
  | [] => none

theorem length_of_codeUnit? {ds : List Char} {n : Nat} (h : codeUnit? ds = some n) :
    ds.length = 4 := by
  unfold codeUnit? at h
  split at h
  · assumption
  · cases h

namespace CharText

variable {c d : Char} {a b : List Char}

theorem readChar?_append (h : CharText c a) (rest : List Char) :
    readChar? (a ++ rest) = some (c, rest) := by
  cases h with
  | plain hcontrol hmark hslash =>
    rw [List.singleton_append, readChar?.eq_def]
    split
    · next heq => exact absurd (List.cons.inj heq).1 hslash
    · next heq => exact absurd (List.cons.inj heq).1 hslash
    · next heq => rw [(List.cons.inj heq).1, (List.cons.inj heq).2]
    · next heq => cases heq
  | @short e c h =>
    have hu : e ≠ 'u' := by
      rintro rfl
      rw [show shortEscapes.lookup 'u' = none by decide] at h
      cases h
    rw [List.cons_append, List.singleton_append, readChar?, h]
    · rfl
    · exact hu
  | @unit ds n h hn =>
    have hlength := length_of_codeUnit? h
    rw [List.cons_append, List.cons_append, readChar?, List.take_left' hlength, h,
      List.drop_left' hlength, Option.bind_some, if_pos hn]
  | @pair ds ds' high low h h' hhigh hlow =>
    have hlength := length_of_codeUnit? h
    have hlength' := length_of_codeUnit? h'
    have hsurrogate : ¬ high.isValidChar := by
      unfold Nat.isValidChar
      omega
    rw [List.cons_append, List.cons_append, List.cons_append, List.cons_append,
      List.append_assoc, readChar?, List.take_left' hlength, h, List.drop_left' hlength,
      Option.bind_some, if_neg hsurrogate]
    simp only [List.cons_append, List.take_left' hlength', h', List.drop_left' hlength',
      Option.map_some]

theorem eq_cons (h : CharText c a) : ∃ d cs, a = d :: cs ∧ d ≠ '"' := by
  cases h with
  | plain hcontrol hmark hslash => exact ⟨c, [], rfl, hmark⟩
  | short h => exact ⟨'\\', _, rfl, by decide⟩
  | unit h hn => exact ⟨'\\', _, rfl, by decide⟩
  | pair h h' hhigh hlow => exact ⟨'\\', _, rfl, by decide⟩

theorem append_inj (h : CharText c a) (h' : CharText d b) {rest rest' : List Char}
    (hsame : a ++ rest = b ++ rest') : c = d ∧ rest = rest' := by
  have hread := h.readChar?_append rest
  rw [hsame, h'.readChar?_append rest'] at hread
  obtain ⟨rfl, rfl⟩ := Prod.mk.inj (Option.some.inj hread)
  exact ⟨rfl, rfl⟩

end CharText

theorem charTexts_append_inj {text text' : List Char} {spellings spellings' : List (List Char)}
    (h : List.Forall₂ CharText text spellings) (h' : List.Forall₂ CharText text' spellings')
    {rest rest' : List Char}
    (hsame : spellings.flatten ++ '"' :: rest = spellings'.flatten ++ '"' :: rest') :
    text = text' ∧ rest = rest' := by
  induction h generalizing text' spellings' with
  | nil =>
    cases h' with
    | nil => exact ⟨rfl, (List.cons.inj hsame).2⟩
    | cons hc h' =>
      obtain ⟨d, cs, rfl, hd⟩ := hc.eq_cons
      exact absurd (List.cons.inj hsame).1.symm hd
  | cons hc h ih =>
    cases h' with
    | nil =>
      obtain ⟨d, cs, rfl, hd⟩ := hc.eq_cons
      exact absurd (List.cons.inj hsame).1 hd
    | cons hc' h' =>
      rw [List.flatten_cons, List.flatten_cons, List.append_assoc, List.append_assoc] at hsame
      obtain ⟨rfl, hmore⟩ := hc.append_inj hc' hsame
      obtain ⟨rfl, rfl⟩ := ih h' hmore
      exact ⟨rfl, rfl⟩

/-- A string ends at the first quotation mark that is not escaped. -/
theorem StringText.append_inj {text text' : String} {a b : List Char} (h : StringText text a)
    (h' : StringText text' b) {rest rest' : List Char} (hsame : a ++ rest = b ++ rest') :
    text = text' ∧ a = b ∧ rest = rest' := by
  obtain ⟨spellings, hchars, rfl⟩ := h
  obtain ⟨spellings', hchars', rfl⟩ := h'
  have hbody : spellings.flatten ++ '"' :: rest = spellings'.flatten ++ '"' :: rest' := by
    simpa using hsame
  obtain ⟨htext, rfl⟩ := charTexts_append_inj hchars hchars' hbody
  exact ⟨String.toList_inj.1 htext, List.append_cancel_right hsame, rfl⟩

/-! ## Numbers -/

/-- Whether a character can stand in a number. -/
def isNumberChar (c : Char) : Bool :=
  c.isDigit || c == '-' || c == '+' || c == '.' || c == 'e' || c == 'E'

/-- No character of a number follows. -/
def Delimited (rest : List Char) : Prop := ∀ c ∈ rest.head?, isNumberChar c = false

namespace NumberText

variable {cs : List Char}

theorem isNumberChar_of_mem (h : NumberText cs) : ∀ c ∈ cs, isNumberChar c = true := by
  have hdigit : ∀ {ds : List Char}, DigitRun ds → ∀ c ∈ ds, isNumberChar c = true := by
    intro ds hds c hc
    simp [isNumberChar, hds.digit c hc]
  obtain ⟨hsign, hwhole, -, hfraction, hexponent⟩ := h
  intro c hc
  simp only [List.mem_append] at hc
  rcases hc with ((hc | hc) | hc) | hc
  · obtain rfl | rfl := hsign
    · cases hc
    · obtain rfl := List.mem_singleton.1 hc
      decide
  · exact hdigit hwhole c hc
  · obtain rfl | ⟨ds, hds, rfl⟩ := hfraction
    · cases hc
    · rcases List.mem_cons.1 hc with rfl | hc
      · decide
      · exact hdigit hds c hc
  · obtain rfl | ⟨e, plus, ds, he, hplus, hds, rfl⟩ := hexponent
    · cases hc
    · rcases List.mem_append.1 hc with hc | hc
      · rcases List.mem_cons.1 hc with rfl | hc
        · have hmarks : (['e', 'E'].all isNumberChar) = true := by decide
          exact List.all_eq_true.1 hmarks c he
        · have hsigns : ([[], ['+'], ['-']].all fun plus => plus.all isNumberChar) = true := by
            decide
          exact List.all_eq_true.1 (List.all_eq_true.1 hsigns plus hplus) c hc
      · exact hdigit hds c hc

/-- A number starts with a minus sign or a digit. -/
theorem eq_cons (h : NumberText cs) : ∃ c rest, cs = c :: rest ∧ (c = '-' ∨ c.isDigit = true) := by
  obtain ⟨hsign, hwhole, -, -, -⟩ := h
  obtain ⟨c, rest, rfl, hc⟩ := hwhole.head
  obtain rfl | rfl := hsign
  · exact ⟨c, _, rfl, Or.inr hc⟩
  · exact ⟨'-', _, rfl, Or.inl rfl⟩

end NumberText

end HelpQuery.Json
