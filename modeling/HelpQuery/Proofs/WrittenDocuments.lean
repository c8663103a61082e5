import HelpQuery.Proofs.WrittenTexts
import HelpQuery.Toml.Parser

/-!
# Written documents

A line sets a key to a value.  A document that is a header and lines with different keys is read as
a single table, if the reader of values gives back what stands on each line:

    parse ("[" ++ name ++ "]\n" ++ String.join (lines.map Line.text)) =
      some [(name, .table (lines.map Line.entry))]

It does so for scalars, texts and lists of texts of any length.
-/

namespace HelpQuery.Toml

/-! ## Space -/

/-- A character that is neither space nor the start of a comment is where skipping stops. -/
theorem skipLines?_cons {c : Char} (cs : List Char)
    (h : c ∉ ['\n', '\r', ' ', '\t', '#']) : skipLines? false (c :: cs) = some (c :: cs) := by
  simp only [List.mem_cons, List.not_mem_nil, or_false, not_or] at h
  obtain ⟨hline, hreturn, hspace, htab, hcomment⟩ := h
  rw [skipLines?]
  simp [hline, hreturn, hcomment, isSpace, hspace, htab]

theorem skipLines?_lineFeed (cs : List Char) :
    skipLines? false ('\n' :: cs) = skipLines? false cs := by
  rw [skipLines?, if_pos rfl]

theorem skipLines?_space (cs : List Char) : skipLines? false (' ' :: cs) = skipLines? false cs := by
  rw [skipLines?]
  rfl

theorem dropSpace_cons {c : Char} (cs : List Char) (h : isSpace c = false) :
    dropSpace (c :: cs) = c :: cs := by
  rw [dropSpace, List.dropWhile_cons_of_neg (by simp [h])]

/-! ## Keys -/

/-- Whether a key may be written without marks. -/
def IsBareKey (key : List Char) : Prop := key ≠ [] ∧ key.all isBareKeyChar = true

instance (key : List Char) : Decidable (IsBareKey key) := inferInstanceAs (Decidable (_ ∧ _))

/-- A character of a kind is none that is not of this kind. -/
theorem ne_of_kind {kind : Char → Bool} {c d : Char} (hc : kind c = true) (hd : kind d = false) :
    c ≠ d := by
  rintro rfl
  rw [hc] at hd
  cases hd

theorem isBareKey_head {key : List Char} (h : IsBareKey key) :
    ∃ c cs, key = c :: cs ∧ isBareKeyChar c = true := by
  obtain ⟨hne, hchars⟩ := h
  cases key with
  | nil => exact absurd rfl hne
  | cons c cs => exact ⟨c, cs, rfl, List.all_eq_true.1 hchars c List.mem_cons_self⟩

/-- A bare key ends at the first character that can be in none. -/
theorem key?_bare {key : List Char} (h : IsBareKey key) {c : Char} (after : List Char)
    (hc : isBareKeyChar c = false) :
    key? (key ++ c :: after) = some (String.ofList key, c :: after) := by
  obtain ⟨first, cs, hkey, hfirst⟩ := isBareKey_head h
  have hchars : ∀ d ∈ key, isBareKeyChar d = true := List.all_eq_true.1 h.2
  have hstop : ¬ isBareKeyChar c = true := by simp [hc]
  have htake : (key ++ c :: after).takeWhile isBareKeyChar = key := by
    rw [List.takeWhile_append_of_pos hchars, List.takeWhile_cons_of_neg hstop, List.append_nil]
  have hdrop : (key ++ c :: after).dropWhile isBareKeyChar = c :: after := by
    rw [List.dropWhile_append_of_pos hchars, List.dropWhile_cons_of_neg hstop]
  unfold key?
  split
  · next heq =>
    rw [hkey] at heq
    exact absurd (List.cons.inj heq).1 (ne_of_kind hfirst (by decide))
  · next heq =>
    rw [hkey] at heq
    exact absurd (List.cons.inj heq).1 (ne_of_kind hfirst (by decide))
  · rw [htake, hdrop, hkey]

/-- A bare key that is followed by no point is a path of its own. -/
theorem path?_bare {key : List Char} (h : IsBareKey key) {c : Char} {after : List Char}
    (hc : isBareKeyChar c = false) (hpoint : (dropSpace (c :: after)).head? ≠ some '.') :
    path? (key ++ c :: after) = some ([String.ofList key], dropSpace (c :: after)) := by
  obtain ⟨first, cs, hkey, hfirst⟩ := isBareKey_head h
  have hspace : isSpace first = false := by
    unfold isSpace
    simp [ne_of_kind hfirst (d := ' ') (by decide), ne_of_kind hfirst (d := '\t') (by decide)]
  have hstart : dropSpace (key ++ c :: after) = key ++ c :: after := by
    rw [hkey, List.cons_append, dropSpace_cons _ hspace]
  have hdotted : dotted? (79 + 1) (key ++ c :: after) =
      some ([String.ofList key], dropSpace (c :: after)) := by
    rw [dotted?, hstart, key?_bare h after hc]
    simp only [bind, Option.bind]
    split
    · next heq =>
      rw [heq] at hpoint
      exact absurd rfl hpoint
    · rfl
  exact hdotted

/-! ## Values -/

/-- A value that is neither an array nor an inline table is a text or a scalar. -/
theorem value?_cons (budget depth : Nat) {c : Char} (cs : List Char) (harray : c ≠ '[')
    (hinline : c ≠ '\x7b') :
    value? (budget + 1) depth (c :: cs) =
      if c = '"' ∨ c = '\'' then
        (readText (c :: cs)).map fun (t, r) => (.string (String.ofList t), r)
      else (scalar? (splitScalar (c :: cs)).1).map (·, (splitScalar (c :: cs)).2) := by
  rw [value?.eq_def]
  split <;> simp_all

theorem value?_array (budget depth : Nat) (cs : List Char) :
    value? (budget + 1) (depth + 1) ('[' :: cs) =
      ((skipLines? false cs).bind (items? budget depth)).map fun (items, after) =>
        (.array items, after) := by
  rw [value?.eq_def]
  show (skipLines? false cs).bind _ = _
  cases skipLines? false cs with
  | none => rfl
  | some cs =>
    show (items? budget depth cs).bind _ = Option.map _ (items? budget depth cs)
    cases items? budget depth cs <;> rfl

theorem items?_close (budget depth : Nat) (after : List Char) :
    items? (budget + 1) depth (']' :: after) = some ([], after) := by
  rw [items?.eq_def]
  rfl

theorem items?_last {budget depth : Nat} {c : Char} {cs after : List Char} {item : Toml}
    (hclose : c ≠ ']') (hitem : value? budget depth (c :: cs) = some (item, ']' :: after)) :
    items? (budget + 1) depth (c :: cs) = some ([item], after) := by
  rw [items?.eq_def]
  split
  · contradiction
  · next heq => exact absurd (List.cons.inj heq).1 hclose
  · next heq _ =>
    cases heq
    rw [hitem]
    rfl

theorem items?_next {budget depth : Nat} {c : Char} {cs more : List Char} {item : Toml}
    (hclose : c ≠ ']') (hitem : value? budget depth (c :: cs) = some (item, ',' :: more)) :
    items? (budget + 1) depth (c :: cs) =
      ((skipLines? false more).bind (items? budget depth)).map fun (items, after) =>
        (item :: items, after) := by
  rw [items?.eq_def]
  split
  · contradiction
  · next heq => exact absurd (List.cons.inj heq).1 hclose
  · next heq _ =>
    cases heq
    rw [hitem]
    show (skipLines? false more).bind _ = _
    cases skipLines? false more with
    | none => rfl
    | some cs =>
      show (items? _ depth cs).bind _ = Option.map _ (items? _ depth cs)
      cases items? _ depth cs <;> rfl

/-! ### What is read back -/

/-- Whether a written value does not start with a space and is read back in front of a line end. -/
structure ReadsAs (written : List Char) (v : Toml) : Prop where
  start : ∃ c cs, written = c :: cs ∧ isSpace c = false
  value : ∀ (budget : Nat) (rest : List Char), 2 * written.length ≤ budget →
    value? budget nestingLimit (written ++ '\n' :: rest) = some (v, '\n' :: rest)

/-- A written text is read as a value at every depth. -/
theorem value?_writeText (budget depth : Nat) (text : String) (rest : List Char)
    (hrest : NoMark rest) :
    value? (budget + 1) depth ((writeText text).toList ++ rest) = some (.string text, rest) := by
  obtain ⟨c, cs, htext, hmark⟩ := writeText_eq_cons text
  have hread := readText_writeText hrest text
  rw [htext, List.cons_append] at hread ⊢
  have harray : c ≠ '[' := by rcases hmark with rfl | rfl <;> decide
  have hinline : c ≠ '\x7b' := by rcases hmark with rfl | rfl <;> decide
  rw [value?_cons budget depth _ harray hinline, if_pos hmark, hread]
  show some (Toml.string (String.ofList text.toList), rest) = _
  rw [String.ofList_toList]

theorem readsAs_writeText (text : String) : ReadsAs (writeText text).toList (.string text) := by
  obtain ⟨c, cs, htext, hmark⟩ := writeText_eq_cons text
  refine ⟨⟨c, cs, htext, by rcases hmark with rfl | rfl <;> decide⟩, fun budget rest hbudget => ?_⟩
  rw [htext, List.length_cons] at hbudget
  obtain ⟨budget, rfl⟩ : ∃ b, budget = b + 1 := ⟨budget - 1, by omega⟩
  exact value?_writeText budget nestingLimit text _ ⟨by simp, by simp⟩

/-- A scalar ends at the end of its line. -/
theorem splitScalar_append {cs : List Char} (h : ∀ c ∈ cs, isScalarChar c = true)
    (rest : List Char) : splitScalar (cs ++ '\n' :: rest) = (cs, '\n' :: rest) := by
  have hline : ¬ isScalarChar '\n' = true := by decide
  unfold splitScalar
  rw [List.takeWhile_append_of_pos h, List.dropWhile_append_of_pos h,
    List.takeWhile_cons_of_neg hline, List.dropWhile_cons_of_neg hline, List.append_nil]
  rfl

/-- A text whose characters are those of scalars is read as the scalar it is. -/
theorem readsAs_scalar {cs : List Char} {v : Toml} (hne : cs ≠ [])
    (hchars : ∀ c ∈ cs, isScalarChar c = true) (hscalar : scalar? cs = some v) : ReadsAs cs v := by
  cases cs with
  | nil => exact absurd rfl hne
  | cons c cs =>
    have hnot : ∀ d, isScalarChar d = false → c ≠ d :=
      fun d hd => ne_of_kind (hchars c List.mem_cons_self) hd
    have hspace : isSpace c = false := by
      unfold isSpace
      simp [hnot ' ' (by decide), hnot '\t' (by decide)]
    have hmark : ¬ (c = '"' ∨ c = '\'') := not_or.2 ⟨hnot '"' (by decide), hnot '\'' (by decide)⟩
    refine ⟨⟨c, cs, rfl, hspace⟩, fun budget rest hbudget => ?_⟩
    rw [List.length_cons] at hbudget
    obtain ⟨budget, rfl⟩ : ∃ b, budget = b + 1 := ⟨budget - 1, by omega⟩
    have hsplit := splitScalar_append hchars rest
    rw [List.cons_append] at hsplit ⊢
    rw [value?_cons _ _ _ (hnot '[' (by decide)) (hnot '\x7b' (by decide)), if_neg hmark, hsplit,
      hscalar]
    rfl

theorem readsAs_writeBoolean (b : Bool) : ReadsAs (writeBoolean b).toList (.boolean b) := by
  cases b with
  | false => exact readsAs_scalar (by decide) (List.all_eq_true.1 (by decide)) rfl
  | true => exact readsAs_scalar (by decide) (List.all_eq_true.1 (by decide)) rfl

/-! ### Lists of texts -/

theorem length_le_flatMap {α : Type} {f : α → List Char} {xs : List α} (h : ∀ x, f x ≠ []) :
    xs.length ≤ (xs.flatMap f).length := by
  induction xs with
  | nil => exact Nat.zero_le _
  | cons x xs ih =>
    have hx : 0 < (f x).length := List.length_pos_iff.2 (h x)
    rw [List.flatMap_cons, List.length_append, List.length_cons]
    omega

/-- The lines of a list of texts, each with its comma. -/
def itemLines (texts : List String) : List Char :=
  texts.flatMap fun t => "    ".toList ++ (writeText t).toList ++ ",\n".toList

theorem skipLines?_writeText (text : String) (rest : List Char) :
    skipLines? false ((writeText text).toList ++ rest) =
      some ((writeText text).toList ++ rest) := by
  obtain ⟨c, cs, htext, hmark⟩ := writeText_eq_cons text
  rw [htext, List.cons_append]
  exact skipLines?_cons _ (by rcases hmark with rfl | rfl <;> decide)

/-- The items on the lines of a list are read up to its closing. -/
theorem items?_itemLines (depth : Nat) (after : List Char) (texts : List String) :
    ∀ {budget : Nat}, texts.length < budget →
      (skipLines? false ('\n' :: (itemLines texts ++ ']' :: after))).bind (items? budget depth) =
        some (texts.map .string, after) := by
  induction texts with
  | nil =>
    intro budget hbudget
    obtain ⟨budget, rfl⟩ : ∃ b, budget = b + 1 := ⟨budget - 1, by omega⟩
    exact items?_close budget depth after
  | cons text texts ih =>
    intro budget hbudget
    rw [List.length_cons] at hbudget
    obtain ⟨budget, rfl⟩ : ∃ b, budget = b + 1 + 1 := ⟨budget - 2, by omega⟩
    have hlines : itemLines (text :: texts) ++ ']' :: after =
        ' ' :: ' ' :: ' ' :: ' ' :: ((writeText text).toList ++
          ',' :: '\n' :: (itemLines texts ++ ']' :: after)) := by
      simp [itemLines]
    have hskip : skipLines? false ('\n' :: (itemLines (text :: texts) ++ ']' :: after)) =
        some ((writeText text).toList ++ ',' :: '\n' :: (itemLines texts ++ ']' :: after)) := by
      rw [hlines, skipLines?_lineFeed, skipLines?_space, skipLines?_space, skipLines?_space,
        skipLines?_space, skipLines?_writeText]
    have hvalue := value?_writeText budget depth text
      (',' :: '\n' :: (itemLines texts ++ ']' :: after)) ⟨by simp, by simp⟩
    rw [hskip, Option.bind_some]
    obtain ⟨c, cs, htext, hmark⟩ := writeText_eq_cons text
    rw [htext, List.cons_append] at hvalue ⊢
    rw [items?_next (by rcases hmark with rfl | rfl <;> decide) hvalue, ih (by omega)]
    rfl

/-- An array is read back if its items are, from the opening on and up to the closing. -/
theorem readsAs_array {inner : List Char} {items : List Toml}
    (h : ∀ (budget depth : Nat) (after : List Char), inner.length < budget →
      (skipLines? false (inner ++ ']' :: after)).bind (items? budget depth) = some (items, after)) :
    ReadsAs ('[' :: inner ++ [']']) (.array items) := by
  refine ⟨⟨'[', _, rfl, by decide⟩, fun budget rest hbudget => ?_⟩
  simp only [List.length_append, List.length_cons, List.length_nil] at hbudget
  obtain ⟨budget, rfl⟩ : ∃ b, budget = b + 1 := ⟨budget - 1, by omega⟩
  rw [List.append_assoc, List.cons_append]
  show value? (budget + 1) (79 + 1) _ = _
  rw [value?_array, List.singleton_append, h budget 79 ('\n' :: rest) (by omega)]
  rfl

theorem readsAs_writeTexts (texts : List String) :
    ReadsAs (writeTexts texts).toList (.array (texts.map .string)) := by
  match texts with
  | [] =>
    show ReadsAs ('[' :: [] ++ [']']) _
    refine readsAs_array fun budget depth after hbudget => ?_
    obtain ⟨budget, rfl⟩ : ∃ b, budget = b + 1 := ⟨budget - 1, by omega⟩
    exact items?_close budget depth after
  | [text] =>
    have hwrite : (writeTexts [text]).toList = '[' :: (writeText text).toList ++ [']'] := by
      rw [writeTexts, String.toList_append, String.toList_append]
      rfl
    rw [hwrite]
    refine readsAs_array fun budget depth after hbudget => ?_
    rw [skipLines?_writeText, Option.bind_some]
    obtain ⟨c, cs, htext, hmark⟩ := writeText_eq_cons text
    rw [htext, List.length_cons] at hbudget
    obtain ⟨budget, rfl⟩ : ∃ b, budget = b + 1 + 1 := ⟨budget - 2, by omega⟩
    have hvalue := value?_writeText budget depth text (']' :: after) ⟨by simp, by simp⟩
    rw [htext, List.cons_append] at hvalue ⊢
    rw [items?_last (by rcases hmark with rfl | rfl <;> decide) hvalue]
    rfl
  | first :: second :: texts =>
    have hwrite : (writeTexts (first :: second :: texts)).toList =
        '[' :: ('\n' :: itemLines (first :: second :: texts)) ++ [']'] := by
      unfold writeTexts
      simp only [String.toList_append, String.toList_join, List.flatMap_map]
      rfl
    rw [hwrite]
    refine readsAs_array fun budget depth after hbudget => ?_
    have hlength : (first :: second :: texts).length ≤
        (itemLines (first :: second :: texts)).length := length_le_flatMap fun t => by simp
    rw [List.length_cons] at hbudget
    exact items?_itemLines depth after _ (by omega)

/-! ## Lines -/

/-- A key and its value, as it is written and as it is read. -/
structure Line where
  key : String
  written : String
  value : Toml

namespace Line

def text (l : Line) : String := writeLine l.key l.written

/-- The assignment on a line. -/
def pair (l : Line) : List String × Toml := ([l.key], l.value)

/-- What a line adds to its table. -/
def entry (l : Line) : String × Toml := (l.key, l.value)

/-- The key is a bare key, and the value is read back. -/
structure Proper (l : Line) : Prop where
  bare : IsBareKey l.key.toList
  reads : ReadsAs l.written.toList l.value

theorem toList_text (l : Line) (rest : List Char) :
    l.text.toList ++ rest =
      l.key.toList ++ ' ' :: '=' :: ' ' :: (l.written.toList ++ '\n' :: rest) := by
  rw [text, writeLine]
  simp

theorem Proper.assignment? {l : Line} (h : l.Proper) {budget : Nat} (rest : List Char)
    (hbudget : 2 * l.written.toList.length < budget) :
    Toml.assignment? budget nestingLimit false (l.text.toList ++ rest) =
      some (l.pair, '\n' :: rest) := by
  obtain ⟨budget, rfl⟩ : ∃ b, budget = b + 1 := ⟨budget - 1, by omega⟩
  obtain ⟨c, cs, hwritten, hc⟩ := h.reads.start
  have hpath : path? (l.text.toList ++ rest) =
      some ([l.key], '=' :: ' ' :: (l.written.toList ++ '\n' :: rest)) := by
    rw [l.toList_text rest, path?_bare h.bare (by decide) (by simp [dropSpace, isSpace]),
      String.ofList_toList]
    rfl
  have hequals : skipGap? false ('=' :: ' ' :: (l.written.toList ++ '\n' :: rest)) =
      some ('=' :: ' ' :: (l.written.toList ++ '\n' :: rest)) := rfl
  have hgap : skipGap? false (' ' :: (l.written.toList ++ '\n' :: rest)) =
      some (l.written.toList ++ '\n' :: rest) := by
    rw [hwritten, List.cons_append]
    exact congrArg some (dropSpace_cons _ hc)
  rw [Toml.assignment?.eq_def]
  simp only [hpath, hequals, hgap, h.reads.value budget rest (by omega), Option.bind_eq_bind,
    Option.bind_some]
  rfl

end Line

/-- A line in front of a document is its first assignment. -/
theorem document?_line {l : Line} (h : l.Proper) (budget : Nat) (rest : List Char) :
    document? (budget + 1) (l.text.toList ++ rest) =
      (document? budget rest).map (Document.consPair l.pair) := by
  obtain ⟨c, cs, hkey, hc⟩ := isBareKey_head h.bare
  have hbudget : 2 * l.written.toList.length < 2 * (l.text.toList ++ rest).length + 1 := by
    rw [l.toList_text]
    simp only [List.length_append, List.length_cons]
    omega
  have hassignment := h.assignment? rest hbudget
  have htext : ∃ cs', l.text.toList ++ rest = c :: cs' := by
    rw [l.toList_text, hkey]
    exact ⟨_, rfl⟩
  obtain ⟨cs', htext⟩ := htext
  rw [htext] at hassignment ⊢
  have hstart : skipLines? false (c :: cs') = some (c :: cs') := by
    refine skipLines?_cons _ ?_
    have hnot : ∀ d, isBareKeyChar d = false → c ≠ d := fun d hd => ne_of_kind hc hd
    simp [hnot '\n' (by decide), hnot '\r' (by decide), hnot ' ' (by decide),
      hnot '\t' (by decide), hnot '#' (by decide)]
  rw [document?, hstart]
  simp only [Option.bind_eq_bind, Option.bind_some]
  split
  · next heq => cases heq
  · next heq => exact absurd (List.cons.inj heq).1 (ne_of_kind hc (by decide))
  · rw [hassignment]
    show (document? budget rest).bind _ = _
    cases document? budget rest <;> rfl

/-- Lines are read as their assignments. -/
theorem document?_lines (lines : List Line) (h : ∀ l ∈ lines, l.Proper) :
    ∀ {budget : Nat}, lines.length < budget →
      document? budget (lines.flatMap (·.text.toList)) = some ⟨lines.map Line.pair, []⟩ := by
  induction lines with
  | nil =>
    intro budget hbudget
    obtain ⟨budget, rfl⟩ : ∃ b, budget = b + 1 := ⟨budget - 1, by omega⟩
    rfl
  | cons l lines ih =>
    intro budget hbudget
    obtain ⟨hl, hlines⟩ := List.forall_mem_cons.1 h
    rw [List.length_cons] at hbudget
    obtain ⟨budget, rfl⟩ : ∃ b, budget = b + 1 := ⟨budget - 1, by omega⟩
    rw [List.flatMap_cons, document?_line hl, ih hlines (by omega)]
    rfl

/-- A header in front of a document is that of the assignments it starts with. -/
theorem document?_header {name : List Char} (h : IsBareKey name) (budget : Nat) (rest : List Char) :
    document? (budget + 1) ('[' :: (name ++ ']' :: '\n' :: rest)) =
      (document? budget rest).map (Document.consHeader false [String.ofList name]) := by
  obtain ⟨c, cs, hname, hc⟩ := isBareKey_head h
  have hpath : path? (name ++ ']' :: '\n' :: rest) =
      some ([String.ofList name], ']' :: '\n' :: rest) :=
    path?_bare h (by decide) (by simp [dropSpace, isSpace])
  have hstart : skipLines? false ('[' :: (name ++ ']' :: '\n' :: rest)) =
      some ('[' :: (name ++ ']' :: '\n' :: rest)) := skipLines?_cons _ (by decide)
  rw [document?, hstart]
  simp only [Option.bind_eq_bind, Option.bind_some]
  split
  · next heq =>
    rw [hname] at heq
    exact absurd (List.cons.inj heq).1 (ne_of_kind hc (by decide))
  · simp only [hpath, Option.bind_some]
    show (document? budget rest).bind _ = _
    cases document? budget rest <;> rfl

/-- A header and lines are read as a single section. -/
theorem document?_section {name : String} (hname : IsBareKey name.toList) {lines : List Line}
    (hlines : ∀ l ∈ lines, l.Proper) {budget : Nat} (hbudget : lines.length + 1 < budget) :
    document? budget ('[' :: (name.toList ++ ']' :: '\n' :: lines.flatMap (·.text.toList))) =
      some ⟨[], [⟨false, [name], lines.map Line.pair⟩]⟩ := by
  obtain ⟨budget, rfl⟩ : ∃ b, budget = b + 1 := ⟨budget - 1, by omega⟩
  rw [document?_header hname, document?_lines lines hlines (by omega), String.ofList_toList]
  rfl

/-! ## Tables -/

/-- Assignments to new keys add them in order. -/
theorem assignAll_lines (lines : List Line) :
    ∀ {entries : Entries}, (entries.map Prod.fst ++ lines.map Line.key).Nodup →
      Entries.assignAll (lines.map Line.pair) entries =
        some (entries ++ lines.map fun l => (l.key, .value l.value)) := by
  induction lines with
  | nil =>
    intro entries _
    rw [List.map_nil, List.map_nil, List.append_nil]
    rfl
  | cons l lines ih =>
    intro entries hkeys
    have hnew : entries.lookup l.key = none := by
      rw [List.lookup_eq_none_iff]
      intro entry hentry
      rw [bne_iff_ne]
      have hdisjoint := (List.nodup_append.1 hkeys).2.2
      exact (hdisjoint _ (List.mem_map_of_mem hentry) _ List.mem_cons_self).symm
    have hassign : Entries.assign true [l.key] l.value entries =
        some (entries ++ [(l.key, .value l.value)]) := by
      rw [Entries.assign, hnew]
      rfl
    show (Entries.assign true [l.key] l.value entries).bind
      (Entries.assignAll (lines.map Line.pair)) = _
    rw [hassign, Option.bind_some, ih]
    · simp
    · simpa using hkeys

theorem finishEntries_lines (lines : List Line) :
    finishEntries (lines.map fun l => (l.key, .value l.value)) = lines.map Line.entry := by
  induction lines with
  | nil => rfl
  | cons l lines ih =>
    rw [List.map_cons, finishEntries, ih]
    rfl

theorem entries?_section (name : String) {lines : List Line}
    (hkeys : (lines.map Line.key).Nodup) :
    Document.entries? ⟨[], [⟨false, [name], lines.map Line.pair⟩]⟩ =
      some [(name, .table .header (lines.map fun l => (l.key, .value l.value)))] := by
  have hassign : Entries.assignAll (lines.map Line.pair) [] =
      some (lines.map fun l => (l.key, .value l.value)) := by
    rw [assignAll_lines lines (by simpa using hkeys), List.nil_append]
  show ((Entries.assignAll (lines.map Line.pair) []).map _).bind some = _
  rw [hassign]
  rfl

/-- A header and lines with different keys are read as one table. -/
theorem parse_section {name : String} (hname : IsBareKey name.toList) {lines : List Line}
    (hlines : ∀ l ∈ lines, l.Proper) (hkeys : (lines.map Line.key).Nodup) :
    parse ("[" ++ name ++ "]\n" ++ String.join (lines.map Line.text)) =
      some [(name, .table (lines.map Line.entry))] := by
  have htext : ("[" ++ name ++ "]\n" ++ String.join (lines.map Line.text)).toList =
      '[' :: (name.toList ++ ']' :: '\n' :: lines.flatMap (·.text.toList)) := by
    simp only [String.toList_append, String.toList_join, List.flatMap_map, List.append_assoc]
    rfl
  have hlength : lines.length ≤ (lines.flatMap (·.text.toList)).length :=
    length_le_flatMap fun l => by simp [Line.text, writeLine]
  have hdocument : document? (('[' :: (name.toList ++ ']' :: '\n' ::
      lines.flatMap (·.text.toList))).length + 1) _ = _ := document?_section hname hlines (by
    simp only [List.length_cons, List.length_append]
    omega)
  generalize name.toList ++ ']' :: '\n' :: lines.flatMap (·.text.toList) = cs at htext hdocument
  unfold parse
  rw [htext]
  show (document? (('[' :: cs).length + 1) ('[' :: cs)).bind _ = _
  rw [hdocument, Option.bind_some, entries?_section name hkeys]
  show some [(name, Toml.table (finishEntries _))] = _
  rw [finishEntries_lines]

end HelpQuery.Toml
