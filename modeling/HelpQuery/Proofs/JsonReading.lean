import HelpQuery.Proofs.JsonGrammar

/-!
# Reading JSON texts

What follows a part of a JSON text tells where it ends, so a text is a written form of one value at
most.

    form x a, form y b, a ++ rest = b ++ rest' → x = y ∧ a = b ∧ rest = rest'   (Told form x)
    v.WrittenAs a, w.WrittenAs b → the same, if no character of a number follows     (told)
    TextOf text v → TextOf text w → v = w                                     (TextOf.unique)
-/

namespace HelpQuery.Json

/-! ## Entries -/

/-- Whether a character can start an entry: no blank, and nothing that ends or separates entries. -/
def isEntryStart (c : Char) : Bool := !isBlank c && c != ',' && c != ']' && c != '\x7d'

theorem not_blank_of_isEntryStart {c : Char} (h : isEntryStart c = true) : isBlank c = false := by
  simp only [isEntryStart, Bool.and_eq_true, Bool.not_eq_true'] at h
  exact h.1.1.1

/-- Nothing follows, or neither a blank nor a character of a number. -/
def Closed (rest : List Char) : Prop :=
  ∀ c ∈ rest.head?, isBlank c = false ∧ isNumberChar c = false

theorem delimited_append {blanks rest : List Char} (hblanks : Blanks blanks) (h : Closed rest) :
    Delimited (blanks ++ rest) := by
  cases blanks with
  | nil => exact fun c hc => (h c hc).2
  | cons b blanks =>
    rintro c ⟨⟩
    have hb : isBlank b = true := hblanks b List.mem_cons_self
    simp only [isBlank, Bool.or_eq_true, beq_iff_eq] at hb
    obtain ((rfl | rfl) | rfl) | rfl := hb
    · decide
    · decide
    · decide
    · decide

section Entries

variable {α : Type} {form : α → List Char → Prop} {x : α} {xs ys : List α}
  {a b rest rest' : List Char}

/-- A written form of the entry is one of no other, and is found by what follows it. -/
def Told (form : α → List Char → Prop) (x : α) : Prop :=
  ∀ ⦃y : α⦄ ⦃a b rest rest' : List Char⦄, form x a → form y b → Delimited rest →
    Delimited rest' → a ++ rest = b ++ rest' → x = y ∧ a = b ∧ rest = rest'

/-- No written form is empty or starts like something else than an entry. -/
def Started (form : α → List Char → Prop) : Prop :=
  ∀ x a, form x a → ∃ c cs, a = c :: cs ∧ isEntryStart c = true

theorem Started.not_blank (hstart : Started form) (ha : form x a) (more : List Char) :
    ∀ c ∈ (a ++ more).head?, isBlank c = false := by
  intro c hc
  obtain ⟨d, cs, rfl, hd⟩ := hstart x a ha
  obtain rfl := Option.some.inj hc
  exact not_blank_of_isEntryStart hd

theorem Told.padded_append_inj (htold : Told form x) (hstart : Started form) {y : α}
    (ha : Padded (form x) a) (hb : Padded (form y) b) (hrest : Closed rest)
    (hrest' : Closed rest') (h : a ++ rest = b ++ rest') : x = y ∧ a = b ∧ rest = rest' := by
  obtain ⟨before, text, after, hbefore, htext, hafter, rfl⟩ := ha
  obtain ⟨before', text', after', hbefore', htext', hafter', rfl⟩ := hb
  simp only [List.append_assoc] at h
  obtain ⟨rfl, htexts⟩ := run_append_inj hbefore hbefore' (hstart.not_blank htext _)
    (hstart.not_blank htext' _) h
  obtain ⟨rfl, rfl, hafters⟩ := htold htext htext' (delimited_append hafter hrest)
    (delimited_append hafter' hrest') htexts
  obtain ⟨rfl, rfl⟩ := run_append_inj hafter hafter' (fun c hc => (hrest c hc).1)
    (fun c hc => (hrest' c hc).1) hafters
  exact ⟨rfl, rfl, rfl⟩

/-- What closes a list of entries. -/
structure IsClosing (close : Char) : Prop where
  not_comma : close ≠ ','
  not_start : isEntryStart close = false
  not_blank : isBlank close = false
  not_number : isNumberChar close = false

variable {close : Char}

theorem closed_moreEntries (hclose : IsClosing close) {forms : List (List Char → Prop)}
    (h : MoreEntries forms a) : Closed (a ++ close :: rest) := by
  cases forms with
  | nil =>
    obtain rfl : a = [] := h
    rintro c ⟨⟩
    exact ⟨hclose.not_blank, hclose.not_number⟩
  | cons form forms =>
    obtain ⟨entry, more, -, -, rfl⟩ := h
    rintro c ⟨⟩
    decide

theorem moreEntries_append_inj (hclose : IsClosing close) (hstart : Started form)
    (htold : ∀ x ∈ xs, Told form x) (ha : MoreEntries (xs.map form) a)
    (hb : MoreEntries (ys.map form) b) (h : a ++ close :: rest = b ++ close :: rest') :
    xs = ys ∧ a = b ∧ rest = rest' := by
  induction xs generalizing ys a b with
  | nil =>
    obtain rfl : a = [] := ha
    cases ys with
    | nil =>
      obtain rfl : b = [] := hb
      exact ⟨rfl, rfl, (List.cons.inj h).2⟩
    | cons y ys =>
      obtain ⟨entry, more, -, -, rfl⟩ := hb
      exact absurd (List.cons.inj h).1 hclose.not_comma
  | cons x xs ih =>
    obtain ⟨hx, hxs⟩ := List.forall_mem_cons.1 htold
    obtain ⟨entry, more, hentry, hmore, rfl⟩ := ha
    cases ys with
    | nil =>
      obtain rfl : b = [] := hb
      exact absurd (List.cons.inj h).1.symm hclose.not_comma
    | cons y ys =>
      obtain ⟨entry', more', hentry', hmore', rfl⟩ := hb
      simp only [List.cons_append, List.append_assoc] at h
      obtain ⟨rfl, rfl, hrest⟩ := hx.padded_append_inj hstart hentry hentry'
        (closed_moreEntries hclose hmore) (closed_moreEntries hclose hmore') (List.cons.inj h).2
      obtain ⟨rfl, rfl, rfl⟩ := ih hxs hmore hmore' hrest
      exact ⟨rfl, rfl, rfl⟩

/-- No entry stands where a list of entries is closed after blanks. -/
theorem not_padded_blanks (hclose : IsClosing close) (hstart : Started form) (hblanks : Blanks a)
    (hb : Padded (form x) b) : a ++ close :: rest ≠ b ++ rest' := by
  obtain ⟨before, text, after, hbefore, htext, -, rfl⟩ := hb
  obtain ⟨c, cs, rfl, hc⟩ := hstart x text htext
  intro h
  simp only [List.append_assoc, List.cons_append] at h
  obtain ⟨-, hsame⟩ := run_append_inj hblanks hbefore (by simpa using hclose.not_blank)
    (by simpa using not_blank_of_isEntryStart hc) h
  have hstarts := hclose.not_start
  rw [(List.cons.inj hsame).1, hc] at hstarts
  cases hstarts

/-- A list of entries ends where it is closed. -/
theorem entries_append_inj (hclose : IsClosing close) (hstart : Started form)
    (htold : ∀ x ∈ xs, Told form x) (ha : Entries (xs.map form) a)
    (hb : Entries (ys.map form) b) (h : a ++ close :: rest = b ++ close :: rest') :
    xs = ys ∧ a = b ∧ rest = rest' := by
  cases xs with
  | nil =>
    cases ys with
    | nil =>
      obtain ⟨rfl, hrest⟩ := run_append_inj ha hb (by simpa using hclose.not_blank)
        (by simpa using hclose.not_blank) h
      exact ⟨rfl, rfl, (List.cons.inj hrest).2⟩
    | cons y ys =>
      obtain ⟨entry, more, hentry, -, rfl⟩ := hb
      rw [List.append_assoc] at h
      exact absurd h (not_padded_blanks hclose hstart ha hentry)
  | cons x xs =>
    obtain ⟨hx, hxs⟩ := List.forall_mem_cons.1 htold
    obtain ⟨entry, more, hentry, hmore, rfl⟩ := ha
    cases ys with
    | nil =>
      rw [List.append_assoc] at h
      exact absurd h.symm (not_padded_blanks hclose hstart hb hentry)
    | cons y ys =>
      obtain ⟨entry', more', hentry', hmore', rfl⟩ := hb
      rw [List.append_assoc, List.append_assoc] at h
      obtain ⟨rfl, rfl, hrest⟩ := hx.padded_append_inj hstart hentry hentry'
        (closed_moreEntries hclose hmore) (closed_moreEntries hclose hmore') h
      obtain ⟨rfl, rfl, rfl⟩ := moreEntries_append_inj hclose hstart hxs hmore hmore' hrest
      exact ⟨rfl, rfl, rfl⟩

end Entries

/-! ## Values -/

theorem isClosing_bracket : IsClosing ']' := ⟨by decide, by decide, by decide, by decide⟩

theorem isClosing_brace : IsClosing '\x7d' := ⟨by decide, by decide, by decide, by decide⟩

/-- The values that start with a character. -/
def StartedBy (c : Char) (v : Json) : Prop :=
  match c with
  | 'n' => v = null
  | 't' => v = bool true
  | 'f' => v = bool false
  | '"' => ∃ text, v = string text
  | '[' => ∃ items, v = array items
  | '\x7b' => ∃ members, v = object members
  | _ => ∃ text, v = number text

theorem startedBy_numberStart {c : Char} (h : c = '-' ∨ c.isDigit = true) (v : Json) :
    isEntryStart c = true ∧ (StartedBy c v ↔ ∃ text, v = number text) := by
  rcases h with rfl | h
  · exact ⟨by decide, Iff.rfl⟩
  · have hne : ∀ d : Char, d.isDigit = false → c ≠ d := by
      rintro d hd rfl
      rw [h] at hd
      cases hd
    refine ⟨by simp [isEntryStart, isBlank, hne], ?_⟩
    unfold StartedBy
    split
    · exact absurd rfl (hne 'n' (by decide))
    · exact absurd rfl (hne 't' (by decide))
    · exact absurd rfl (hne 'f' (by decide))
    · exact absurd rfl (hne '"' (by decide))
    · exact absurd rfl (hne '[' (by decide))
    · exact absurd rfl (hne '\x7b' (by decide))
    · exact Iff.rfl

namespace WrittenAs

/-- The first character of a text tells the kind of its value. -/
theorem eq_cons {v : Json} {a : List Char} (h : v.WrittenAs a) :
    ∃ c cs, a = c :: cs ∧ isEntryStart c = true ∧ StartedBy c v := by
  cases v with
  | null =>
    obtain rfl : a = "null".toList := h
    exact ⟨'n', ['u', 'l', 'l'], by decide, by decide, rfl⟩
  | bool b =>
    obtain rfl : a = (if b then "true" else "false").toList := h
    cases b with
    | false => exact ⟨'f', ['a', 'l', 's', 'e'], by decide, by decide, rfl⟩
    | true => exact ⟨'t', ['r', 'u', 'e'], by decide, by decide, rfl⟩
  | number text =>
    obtain ⟨rfl, hnumber⟩ := h
    obtain ⟨c, cs, htext, hc⟩ := hnumber.eq_cons
    obtain ⟨hstart, hkind⟩ := startedBy_numberStart hc (number text)
    exact ⟨c, cs, htext, hstart, hkind.2 ⟨text, rfl⟩⟩
  | string text =>
    obtain ⟨spellings, -, rfl⟩ := h
    exact ⟨'"', _, rfl, by decide, text, rfl⟩
  | array items =>
    obtain ⟨body, -, rfl⟩ := h
    exact ⟨'[', _, rfl, by decide, items, rfl⟩
  | object members =>
    obtain ⟨body, -, rfl⟩ := h
    exact ⟨'\x7b', _, rfl, by decide, members, rfl⟩

theorem started : Started WrittenAs := by
  intro v a h
  obtain ⟨c, cs, rfl, hc, -⟩ := h.eq_cons
  exact ⟨c, cs, rfl, hc⟩

theorem startedBy {v : Json} {b : List Char} (h : v.WrittenAs b) {c : Char}
    {cs rest : List Char} (hsame : c :: cs = b ++ rest) : StartedBy c v := by
  obtain ⟨d, ds, rfl, -, hv⟩ := h.eq_cons
  rw [(List.cons.inj hsame).1]
  exact hv

end WrittenAs

theorem started_memberText :
    Started fun m : String × Json => MemberText m.1 m.2.WrittenAs := by
  rintro m _ ⟨name, before, after, text, ⟨spellings, -, rfl⟩, -, -, -, rfl⟩
  exact ⟨'"', _, rfl, by decide⟩

theorem told_memberText {m : String × Json} (h : Told WrittenAs m.2) :
    Told (fun m : String × Json => MemberText m.1 m.2.WrittenAs) m := by
  rintro m' _ _ rest rest' ⟨name, before, after, text, hname, hbefore, hafter, htext, rfl⟩
    ⟨name', before', after', text', hname', hbefore', hafter', htext', rfl⟩ hrest hrest' hsame
  have hcolon : ∀ more : List Char, ∀ c ∈ (':' :: more).head?, isBlank c = false := by
    rintro more c ⟨⟩
    decide
  simp only [List.append_assoc, List.cons_append] at hsame
  obtain ⟨hkey, rfl, hrest1⟩ := hname.append_inj hname' hsame
  obtain ⟨rfl, hrest2⟩ := run_append_inj hbefore hbefore' (hcolon _) (hcolon _) hrest1
  obtain ⟨rfl, hrest3⟩ := run_append_inj hafter hafter' (WrittenAs.started.not_blank htext _)
    (WrittenAs.started.not_blank htext' _) (List.cons.inj hrest2).2
  obtain ⟨hvalue, rfl, rfl⟩ := h htext htext' hrest hrest' hrest3
  exact ⟨Prod.ext hkey hvalue, rfl, rfl⟩

/-- A value with one written form, which starts like no other value. -/
theorem told_literal {v : Json} {c : Char} {cs : List Char}
    (hform : ∀ a, v.WrittenAs a → a = c :: cs) (honly : ∀ w, StartedBy c w → w = v) :
    Told WrittenAs v := by
  intro w a b rest rest' ha hb _ _ h
  obtain rfl := hform a ha
  obtain rfl := honly w (hb.startedBy h)
  obtain rfl := hform b hb
  exact ⟨rfl, rfl, List.append_cancel_left h⟩

theorem told_number (text : String) : Told WrittenAs (number text) := by
  rintro w a b rest rest' ⟨rfl, hnumber⟩ hb hrest hrest' h
  obtain ⟨c, cs, htext, hc⟩ := hnumber.eq_cons
  obtain ⟨text', rfl⟩ := (startedBy_numberStart hc w).2.1
    (hb.startedBy (by rw [← h, htext, List.cons_append]))
  obtain ⟨rfl, hnumber'⟩ := hb
  obtain ⟨hsame, rfl⟩ := run_append_inj hnumber.isNumberChar_of_mem hnumber'.isNumberChar_of_mem
    hrest hrest' h
  exact ⟨congrArg number (String.toList_inj.1 hsame), hsame, rfl⟩

theorem told_string (text : String) : Told WrittenAs (string text) := by
  intro w a b rest rest' ha hb _ _ h
  obtain ⟨text', rfl⟩ : ∃ text', w = string text' := by
    obtain ⟨spellings, -, rfl⟩ := ha
    exact hb.startedBy h
  obtain ⟨rfl, rfl, rfl⟩ := StringText.append_inj ha hb h
  exact ⟨rfl, rfl, rfl⟩

/-- A written form of a value is one of no other, if no character of a number follows. -/
theorem told (v : Json) : Told WrittenAs v := by
  induction v using induction_entries with
  | null =>
    have hform : ∀ a, null.WrittenAs a → a = ['n', 'u', 'l', 'l'] := fun _ h => h
    exact told_literal hform fun _ h => h
  | bool b =>
    cases b with
    | false =>
      have hform : ∀ a, (bool false).WrittenAs a → a = ['f', 'a', 'l', 's', 'e'] := fun _ h => h
      exact told_literal hform fun _ h => h
    | true =>
      have hform : ∀ a, (bool true).WrittenAs a → a = ['t', 'r', 'u', 'e'] := fun _ h => h
      exact told_literal hform fun _ h => h
  | number text => exact told_number text
  | string text => exact told_string text
  | array items ih =>
    rintro w _ b rest rest' ⟨body, hbody, rfl⟩ hb _ _ h
    obtain ⟨items', rfl⟩ := hb.startedBy h
    obtain ⟨body', hbody', rfl⟩ := hb
    rw [itemForms_eq_map] at hbody hbody'
    obtain ⟨rfl, rfl, rfl⟩ := entries_append_inj isClosing_bracket WrittenAs.started ih hbody
      hbody' (by simpa using h)
    exact ⟨rfl, rfl, rfl⟩
  | object members ih =>
    rintro w _ b rest rest' ⟨body, hbody, rfl⟩ hb _ _ h
    obtain ⟨members', rfl⟩ := hb.startedBy h
    obtain ⟨body', hbody', rfl⟩ := hb
    rw [memberForms_eq_map] at hbody hbody'
    obtain ⟨rfl, rfl, rfl⟩ := entries_append_inj isClosing_brace started_memberText
      (fun m hm => told_memberText (ih m hm)) hbody hbody' (by simpa using h)
    exact ⟨rfl, rfl, rfl⟩

/-- A text is one of at most one value. -/
theorem TextOf.unique {text : String} {v w : Json} (h : TextOf text v) (h' : TextOf text w) :
    v = w := by
  have hnothing : Closed [] := by simp [Closed]
  exact (Told.padded_append_inj (told v) WrittenAs.started h h' hnothing hnothing rfl).1

end HelpQuery.Json
