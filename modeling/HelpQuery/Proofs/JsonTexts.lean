import HelpQuery.Json.Printer
import HelpQuery.Proofs.JsonReading

/-!
# Written JSON values

Both layouts write a value in one of its forms, if its numbers are numerals, and finite numbers are
written as numerals.

    v.Everywhere IsNumeral → TextOf v.compact v ∧ TextOf v.pretty v
    NumberText (Layout.json.write (.finite negative m)).toList
-/

namespace HelpQuery.Json

/-! ## Properties of all values inside -/

mutual

/-- Whether a property holds of a value and of all values inside it. -/
def Everywhere (p : Json → Prop) : Json → Prop
  | null => p null
  | bool b => p (bool b)
  | number text => p (number text)
  | string text => p (string text)
  | array items => p (array items) ∧ ItemsEverywhere p items
  | object members => p (object members) ∧ MembersEverywhere p members

def ItemsEverywhere (p : Json → Prop) : List Json → Prop
  | [] => True
  | item :: rest => item.Everywhere p ∧ ItemsEverywhere p rest

def MembersEverywhere (p : Json → Prop) : List (String × Json) → Prop
  | [] => True
  | (_, value) :: rest => value.Everywhere p ∧ MembersEverywhere p rest

end

section Everywhere

variable (p : Json → Prop)

theorem everywhere_array (items : List Json) :
    (array items).Everywhere p ↔ p (array items) ∧ ∀ v ∈ items, v.Everywhere p := by
  have hitems : ItemsEverywhere p items ↔ ∀ v ∈ items, v.Everywhere p := by
    induction items with
    | nil => simp [ItemsEverywhere]
    | cons item items ih => rw [ItemsEverywhere, ih, List.forall_mem_cons]
  rw [Everywhere, hitems]

theorem everywhere_object (members : List (String × Json)) :
    (object members).Everywhere p ↔ p (object members) ∧ ∀ m ∈ members, m.2.Everywhere p := by
  have hmembers : MembersEverywhere p members ↔ ∀ m ∈ members, m.2.Everywhere p := by
    induction members with
    | nil => simp [MembersEverywhere]
    | cons m members ih => rw [MembersEverywhere, ih, List.forall_mem_cons]
  rw [Everywhere, hmembers]

theorem Everywhere.mono {p q : Json → Prop} (hpq : ∀ v, p v → q v) {v : Json}
    (h : v.Everywhere p) : v.Everywhere q := by
  induction v using induction_entries with
  | null => exact hpq _ h
  | bool b => exact hpq _ h
  | number text => exact hpq _ h
  | string text => exact hpq _ h
  | array items ih =>
    rw [everywhere_array] at h ⊢
    exact ⟨hpq _ h.1, fun v hv => ih v hv (h.2 v hv)⟩
  | object members ih =>
    rw [everywhere_object] at h ⊢
    exact ⟨hpq _ h.1, fun m hm => ih m hm (h.2 m hm)⟩

end Everywhere

/-- The text of a number is a numeral. -/
def IsNumeral : Json → Prop
  | number text => NumberText text.toList
  | _ => True

/-! ## Strings -/

theorem charText_escapeChar (c : Char) : CharText c (escapeChar c) := by
  have hcontrols : ∀ n < 0x20, codeUnit? (controlDigits (Char.ofNat n)) = some n := by decide
  unfold escapeChar
  split
  · exact .short (by decide)
  · exact .short (by decide)
  · exact .short (by decide)
  · exact .short (by decide)
  · exact .short (by decide)
  · exact .short (by decide)
  · exact .short (by decide)
  · next hmark hslash _ _ _ _ _ =>
    split
    · next hcontrol =>
      have hunit := hcontrols c.toNat hcontrol
      rw [Char.ofNat_toNat] at hunit
      have htext := CharText.unit hunit (by unfold Nat.isValidChar; omega)
      rwa [Char.ofNat_toNat] at htext
    · next hcontrol => exact .plain (Nat.not_lt.1 hcontrol) hmark hslash

theorem stringText_quote (text : String) : StringText text (quote text).toList := by
  refine ⟨text.toList.map escapeChar, ?_, ?_⟩
  · rw [List.forall₂_map_right_iff, List.forall₂_same]
    exact fun c _ => charText_escapeChar c
  · rw [quote, String.toList_ofList, List.flatMap_def]

/-! ## Lists of entries -/

theorem blanks_nil : Blanks [] := by simp [Blanks]

/-- Entries with the same blanks before each and some behind the last. -/
theorem entries_intercalate {α : Type} {form : α → List Char → Prop} {text : α → List Char}
    {before after : List Char} (hbefore : Blanks before) (hafter : Blanks after) (x : α)
    (xs : List α) (h : ∀ y ∈ x :: xs, form y (text y)) :
    Entries ((x :: xs).map form)
      ([','].intercalate ((x :: xs).map fun y => before ++ text y) ++ after) := by
  induction xs generalizing x with
  | nil =>
    refine ⟨before ++ text x ++ after, [], ⟨before, text x, after, hbefore, h x (by simp), hafter,
      rfl⟩, rfl, ?_⟩
    simp
  | cons y xs ih =>
    obtain ⟨hx, hxs⟩ := List.forall_mem_cons.1 h
    obtain ⟨entry, more, hentry, hmore, hsame⟩ := ih y hxs
    refine ⟨before ++ text x, ',' :: (entry ++ more),
      ⟨before, text x, [], hbefore, hx, blanks_nil, by simp⟩,
      ⟨entry, more, hentry, hmore, rfl⟩, ?_⟩
    simp only [List.map_cons, List.intercalate_cons_cons, List.append_assoc] at hsame ⊢
    rw [hsame]
    rfl

section Layouts

variable {α : Type} {form : α → List Char → Prop} {text : α → String} {xs : List α}
  (h : ∀ x ∈ xs, form x (text x).toList)

include h

/-- Entries with nothing but commas between them. -/
theorem entries_compact : Entries (xs.map form) (",".intercalate (xs.map text)).toList := by
  cases xs with
  | nil => exact blanks_nil
  | cons x xs =>
    simpa [String.toList_intercalate, Function.comp_def] using
      entries_intercalate blanks_nil blanks_nil x xs h

/-- Entries with a line for each of them. -/
theorem entries_block (level : Nat) (opening closing : String) :
    ∃ body, Entries (xs.map form) body ∧
      (block level opening closing (xs.map text)).toList =
        opening.toList ++ body ++ closing.toList := by
  have hline : ∀ level, Blanks (newLine level).toList := by
    intro level c hc
    simp only [newLine, String.toList_append, String.toList_ofList, List.mem_append] at hc
    rcases hc with hc | hc
    · obtain rfl := List.mem_singleton.1 hc
      decide
    · rw [List.eq_of_mem_replicate hc]
      decide
  cases xs with
  | nil => exact ⟨[], blanks_nil, by simp [block]⟩
  | cons x xs =>
    refine ⟨_, entries_intercalate (hline level) (hline (level - 1)) x xs h, ?_⟩
    have hpieces : ((x :: xs).map text).map (fun e => (newLine level ++ e).toList) =
        (x :: xs).map fun y => (newLine level).toList ++ (text y).toList := by
      rw [List.map_map]
      exact List.map_congr_left fun y _ => String.toList_append
    have hcommas : (",".intercalate (((x :: xs).map text).map (newLine level ++ ·))).toList =
        [','].intercalate ((x :: xs).map fun y => (newLine level).toList ++ (text y).toList) := by
      rw [String.toList_intercalate, List.map_map, ← hpieces]
      rfl
    rw [← hcommas, List.map_cons, block]
    simp only [String.toList_append, List.append_assoc]
    exact List.cons_ne_nil _ _

end Layouts

/-! ## Values -/

theorem memberText {key : String} {value : Json} {colon : String} {between : List Char}
    (hcolon : colon.toList = ':' :: between) (hbetween : Blanks between) {text : String}
    (h : value.WrittenAs text.toList) :
    MemberText key value.WrittenAs (quote key ++ colon ++ text).toList :=
  ⟨_, [], between, _, stringText_quote key, blanks_nil, hbetween, h, by simp [hcolon]⟩

theorem compactItems_eq_map (items : List Json) : compactItems items = items.map compact := by
  induction items with
  | nil => rfl
  | cons item items ih => rw [compactItems, ih, List.map_cons]

theorem compactMembers_eq_map (members : List (String × Json)) :
    compactMembers members = members.map fun m => quote m.1 ++ ":" ++ m.2.compact := by
  induction members with
  | nil => rfl
  | cons m members ih => rw [compactMembers, ih, List.map_cons]

theorem prettyItems_eq_map (level : Nat) (items : List Json) :
    prettyItems level items = items.map (prettyAt (level + 1)) := by
  induction items with
  | nil => rfl
  | cons item items ih => rw [prettyItems, ih, List.map_cons]

theorem prettyMembers_eq_map (level : Nat) (members : List (String × Json)) :
    prettyMembers level members =
      members.map fun m => quote m.1 ++ ": " ++ prettyAt (level + 1) m.2 := by
  induction members with
  | nil => rfl
  | cons m members ih => rw [prettyMembers, ih, List.map_cons]

theorem writtenAs_compact {v : Json} (h : v.Everywhere IsNumeral) :
    v.WrittenAs v.compact.toList := by
  induction v using induction_entries with
  | null => rfl
  | bool b => rfl
  | number text => exact ⟨rfl, h⟩
  | string text => exact stringText_quote text
  | array items ih =>
    rw [everywhere_array] at h
    refine ⟨_, ?_, by rw [compact, String.toList_append, String.toList_append]; rfl⟩
    rw [itemForms_eq_map, compactItems_eq_map]
    exact entries_compact fun v hv => ih v hv (h.2 v hv)
  | object members ih =>
    rw [everywhere_object] at h
    refine ⟨_, ?_, by rw [compact, String.toList_append, String.toList_append]; rfl⟩
    rw [memberForms_eq_map, compactMembers_eq_map]
    exact entries_compact fun m hm => memberText rfl blanks_nil (ih m hm (h.2 m hm))

theorem writtenAs_prettyAt {v : Json} (h : v.Everywhere IsNumeral) (level : Nat) :
    v.WrittenAs (prettyAt level v).toList := by
  induction v using induction_entries generalizing level with
  | null => rfl
  | bool b => rfl
  | number text => exact ⟨rfl, h⟩
  | string text => exact stringText_quote text
  | array items ih =>
    rw [everywhere_array] at h
    obtain ⟨body, hbody, htext⟩ := entries_block (fun v hv => ih v hv (h.2 v hv) (level + 1))
      level "[" "]"
    refine ⟨body, by rwa [itemForms_eq_map], ?_⟩
    rw [prettyAt, prettyItems_eq_map, htext]
    rfl
  | object members ih =>
    rw [everywhere_object] at h
    have hspace : Blanks [' '] := by
      intro c hc
      obtain rfl := List.mem_singleton.1 hc
      decide
    have hmembers : ∀ m ∈ members, MemberText m.1 m.2.WrittenAs
        (quote m.1 ++ ": " ++ prettyAt (level + 1) m.2).toList := fun m hm =>
      memberText rfl hspace (ih m hm (h.2 m hm) (level + 1))
    obtain ⟨body, hbody, htext⟩ := entries_block hmembers level "\x7b" "\x7d"
    refine ⟨body, by rwa [memberForms_eq_map], ?_⟩
    rw [prettyAt, prettyMembers_eq_map, htext]
    rfl

/-- Both layouts write a value whose numbers are numerals in one of its forms. -/
theorem textOf_compact {v : Json} (h : v.Everywhere IsNumeral) : TextOf v.compact v :=
  ⟨[], _, [], blanks_nil, writtenAs_compact h, blanks_nil, by simp⟩

theorem textOf_pretty {v : Json} (h : v.Everywhere IsNumeral) : TextOf v.pretty v :=
  ⟨[], _, [], blanks_nil, writtenAs_prettyAt h 1, blanks_nil, by simp [pretty]⟩

/-! ## Numbers -/

theorem numberText_point {sign whole fraction : List Char} (hsign : sign = [] ∨ sign = ['-'])
    (h : Pointed whole fraction) : NumberText (sign ++ (whole ++ '.' :: fraction)) := by
  have hnumber := NumberText.mk hsign h.whole_run h.no_zero (Or.inr ⟨fraction, h.fraction_run, rfl⟩)
    (Or.inl rfl)
  simpa using hnumber

/-- Exponent notation has one digit before the point, which is no zero. -/
theorem numberText_exponent {sign : List Char} (hsign : sign = [] ∨ sign = ['-']) {d : Digits}
    (hd : d.digits ≠ 0) : NumberText (sign ++ (Layout.exponentText d).toList) := by
  have hrun := DigitRun.digitChars d.digits
  obtain ⟨c, r, hdigits, hc⟩ := hrun.head
  have hone : DigitRun [c] := ⟨by simpa using hc, by simp⟩
  have hzero : [c].head? = some '0' → [c] = ['0'] := by
    intro h
    have hhead : (Layout.digitChars d.digits).head? = some '0' := by rw [hdigits]; exact h
    exact absurd hhead (head?_toDigits hd)
  have hplus : (if 0 ≤ Layout.leading d then ['+'] else ['-']) ∈ [[], ['+'], ['-']] := by
    split <;> simp
  have hexponent := DigitRun.digitChars (Layout.leading d).natAbs
  have hmark : ((if 0 ≤ Layout.leading d then "e+" else "e-") : String).toList =
      'e' :: if 0 ≤ Layout.leading d then ['+'] else ['-'] := by
    split <;> decide
  unfold Layout.exponentText
  simp only [hdigits]
  cases r with
  | nil =>
    have hnumber := NumberText.mk hsign hone hzero (Or.inl rfl)
      (Or.inr ⟨'e', _, _, by simp, hplus, hexponent, rfl⟩)
    simpa [hmark] using hnumber
  | cons c' r =>
    have hfraction : DigitRun (c' :: r) :=
      ⟨fun x hx => hrun.digit x (by rw [hdigits]; exact List.mem_cons_of_mem c hx), by simp⟩
    have hnumber := NumberText.mk hsign hone hzero (Or.inr ⟨_, hfraction, rfl⟩)
      (Or.inr ⟨'e', _, _, by simp, hplus, hexponent, rfl⟩)
    simpa [hmark] using hnumber

/-- A finite number is written as a numeral. -/
theorem numberText_write (negative : Bool) (m : Magnitude Format.single) :
    NumberText (Layout.json.write (Binary.finite negative m)).toList := by
  have hsign : (if negative then "-" else "").toList = [] ∨
      (if negative then "-" else "").toList = ['-'] := by
    cases negative <;> decide
  rw [Layout.write, String.toList_append]
  generalize (if negative then "-" else "").toList = sign at hsign ⊢
  split
  · obtain ⟨whole, fraction, hspelled, htext⟩ :=
      exists_spelled (m.shortest .toEven) (m.shortest_exponent .toEven)
    exact (congrArg (fun cs => NumberText (sign ++ cs)) htext).mpr
      (numberText_point hsign hspelled.toPointed)
  · next hexp =>
    refine numberText_exponent hsign ?_
    intro hd
    exact hexp (by simp [hd])

end HelpQuery.Json
