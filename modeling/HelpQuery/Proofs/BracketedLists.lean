import HelpQuery.Proofs.QueryStrings
import HelpQuery.Query.Report

/-!
# Bracketed lists

A report lists tokens and parts in brackets and escapes nothing, so a word may hold brackets, and a
phrase brackets and spaces.  The items are found by the spaces outside quotation marks, and what an
item shows tells its kind.

    tokensText (scan raw) = tokensText (scan raw') → scan raw = scan raw'
    partsText parts = partsText parts' → parts = parts'            for parts with legible terms
-/

namespace HelpQuery

/-! ## Items in brackets -/

/-- An item in brackets. -/
def bracketedItem (item : String) : List Char := '[' :: item.toList ++ [']']

theorem toList_bracketed_cons (item : String) (items : List String) :
    (bracketed (item :: items)).toList =
      bracketedItem item ++ (items.map bracketedItem).flatMap (' ' :: ·) := by
  have hitem : ∀ i : String, ("[" ++ i ++ "]").toList = bracketedItem i := fun i => by
    simp [bracketedItem, String.toList_append]
  have hitems : ((item :: items).map fun i => "[" ++ i ++ "]").map String.toList =
      (item :: items).map bracketedItem := by
    rw [List.map_map]
    exact List.map_congr_left fun i _ => hitem i
  rw [bracketed, String.toList_intercalate, hitems]
  · exact (intercalate_space bracketedItem item items).trans (by rw [List.flatMap_map])
  · simp

theorem bracketedItem_inj {i j : String} (h : bracketedItem i = bracketedItem j) : i = j :=
  String.toList_inj.1 (List.append_cancel_right (List.cons.inj h).2)

theorem spaced_bracketedItem {i : String} (h : Spaced 0 i.toList) : Spaced 0 (bracketedItem i) := by
  have hopen : Spaced 0 ['['] := Spaced.word (by simp)
  have hclose : Spaced 0 [']'] := Spaced.word (by simp)
  exact (hopen.append h).append hclose

/-- The list without items is told by its parentheses, any other by the spaces outside quotation
marks. -/
theorem bracketed_inj {items items' : List String} (h : ∀ i ∈ items, Spaced 0 i.toList)
    (h' : ∀ i ∈ items', Spaced 0 i.toList) (hsame : bracketed items = bracketed items') :
    items = items' := by
  have hchars := congrArg String.toList hsame
  have hnone : ∀ (i : String) (is : List String),
      (bracketed []).toList ≠ (bracketed (i :: is)).toList := by
    intro i is heq
    rw [toList_bracketed_cons] at heq
    exact absurd (List.cons.inj heq).1 (by decide)
  have hspaced : ∀ {is : List String}, (∀ i ∈ is, Spaced 0 i.toList) →
      ∀ x ∈ is.map bracketedItem, Spaced 0 x := by
    intro is his x hx
    obtain ⟨i, hi, rfl⟩ := List.mem_map.1 hx
    exact spaced_bracketedItem (his i hi)
  cases items with
  | nil =>
    cases items' with
    | nil => rfl
    | cons i' items' => exact absurd hchars (hnone i' items')
  | cons i items =>
    cases items' with
    | nil => exact absurd hchars.symm (hnone i items)
    | cons i' items' =>
      rw [toList_bracketed_cons, toList_bracketed_cons] at hchars
      have hspace := congrArg (' ' :: ·) hchars
      have hlists : (i :: items).map bracketedItem = (i' :: items').map bracketedItem :=
        flatMap_space_inj (hspaced h) (hspaced h') (by simpa using hspace)
      exact Function.Injective.list_map (fun _ _ => bracketedItem_inj) hlists

/-- Things that can be told from what they show can be told from a list of it. -/
theorem bracketed_map_inj {α : Type} {shown : α → String} {p : α → Prop}
    (hspaced : ∀ x, p x → Spaced 0 (shown x).toList)
    (hshown : ∀ x y, p x → p y → shown x = shown y → x = y) {xs ys : List α}
    (hxs : ∀ x ∈ xs, p x) (hys : ∀ y ∈ ys, p y)
    (h : bracketed (xs.map shown) = bracketed (ys.map shown)) : xs = ys := by
  have hitems : ∀ {zs : List α}, (∀ z ∈ zs, p z) → ∀ i ∈ zs.map shown, Spaced 0 i.toList := by
    intro zs hzs i hi
    obtain ⟨z, hz, rfl⟩ := List.mem_map.1 hi
    exact hspaced z (hzs z hz)
  replace h := bracketed_inj (hitems hxs) (hitems hys) h
  induction xs generalizing ys with
  | nil => exact (List.map_eq_nil_iff.1 h.symm).symm
  | cons x xs ih =>
    cases ys with
    | nil => cases h
    | cons y ys =>
      obtain ⟨hx, hxs⟩ := List.forall_mem_cons.1 hxs
      obtain ⟨hy, hys⟩ := List.forall_mem_cons.1 hys
      obtain ⟨hhead, htail⟩ := List.cons.inj h
      rw [hshown x y hx hy hhead, ih hxs hys htail]

/-! ## Operators -/

theorem Operator.spelling_inj {op op' : Operator} (h : op.spelling = op'.spelling) : op = op' := by
  revert h
  cases op <;> cases op' <;> decide

/-- The spelling of an operator has no blank and none of the marks of phrases and patterns. -/
theorem Operator.of_mem_spelling (op : Operator) :
    ∀ c ∈ op.spelling.toList, c ≠ ' ' ∧ c ≠ '"' ∧ c ≠ '?' ∧ c ≠ '*' := by
  have hall : (op.spelling.toList.all fun c => c != ' ' && c != '"' && c != '?' && c != '*') =
      true := by
    cases op <;> decide
  intro c hc
  simpa [and_assoc] using List.all_eq_true.1 hall c hc

theorem Operator.spaced_spelling (op : Operator) : Spaced 0 op.spelling.toList :=
  Spaced.word fun c hc => ⟨(op.of_mem_spelling c hc).1, (op.of_mem_spelling c hc).2.1⟩

/-! ## Tokens -/

namespace Token

theorem toList_shown_phrase (text : String) :
    (phrase text).shown.toList = '"' :: text.toList ++ ['"'] := by
  simp [shown, String.toList_append]

theorem quote_mem_shown_phrase (text : String) : '"' ∈ (phrase text).shown.toList := by
  rw [toList_shown_phrase]
  exact List.mem_cons_self

theorem spaced_shown {t : Token} (h : t.Proper) : Spaced 0 t.shown.toList := by
  cases t with
  | word text =>
    refine Spaced.word fun c hc => ⟨?_, (h.2.1 c hc).2⟩
    rintro rfl
    exact absurd (h.2.1 ' ' hc).1 (by decide)
  | phrase text =>
    rw [toList_shown_phrase]
    exact Spaced.quoted h
  | operator op => exact op.spaced_spelling

/-- What a proper token shows determines it: quotation marks tell a phrase, and no word is spelled
as an operator. -/
theorem shown_inj {t t' : Token} (ht : t.Proper) (ht' : t'.Proper) (h : t.shown = t'.shown) :
    t = t' := by
  have hphrase : ∀ {t : Token} {text : String}, t.Proper → t.shown = (phrase text).shown →
      ∃ text', t = phrase text' := by
    intro t text ht h
    have hquote : '"' ∈ t.shown.toList := h ▸ quote_mem_shown_phrase text
    cases t with
    | word text' => exact absurd rfl (ht.2.1 '"' hquote).2
    | phrase text' => exact ⟨text', rfl⟩
    | operator op => exact absurd rfl (op.of_mem_spelling '"' hquote).2.1
  have hword : ∀ {text : String} {op : Operator}, (word text).Proper → text ≠ op.spelling := by
    rintro _ op hproper rfl
    exact hproper.2.2 op ((op.spelledBy_iff _).2 rfl)
  cases t with
  | word text =>
    cases t' with
    | word text' => exact congrArg word h
    | phrase text' => obtain ⟨_, ⟨⟩⟩ := hphrase ht h
    | operator op' => exact absurd h (hword ht)
  | phrase text =>
    obtain ⟨text', rfl⟩ := hphrase ht' h.symm
    have hchars := congrArg String.toList h
    rw [toList_shown_phrase, toList_shown_phrase] at hchars
    rw [String.toList_inj.1 (List.append_cancel_right (List.cons.inj hchars).2)]
  | operator op =>
    cases t' with
    | word text' => exact absurd h.symm (hword ht')
    | phrase text' => obtain ⟨_, ⟨⟩⟩ := hphrase ht h
    | operator op' => exact congrArg operator (Operator.spelling_inj h)

end Token

/-- The list of proper tokens determines them. -/
theorem tokensText_inj {ts ts' : List Token} (hts : ∀ t ∈ ts, t.Proper)
    (hts' : ∀ t ∈ ts', t.Proper) (h : tokensText ts = tokensText ts') : ts = ts' :=
  bracketed_map_inj (fun _ => Token.spaced_shown) (fun _ _ => Token.shown_inj) hts hts' h

/-! ## Parts -/

namespace Part

/-- Whether what a part shows tells its kind: a term is not spelled as an operator. -/
def Legible : Part → Prop
  | atom a => a.Legible ∧ ∀ op : Operator, a ≠ .term op.spelling
  | operator _ => True

theorem spaced_shown {p : Part} (h : p.Legible) : Spaced 0 p.shown.toList := by
  cases p with
  | atom a => exact Atom.spaced_queryString h.1
  | operator op => exact op.spaced_spelling

/-- No legible atom shows the spelling of an operator. -/
theorem Legible.queryString_ne {a : Atom} (h : (atom a).Legible) (op : Operator) :
    a.queryString ≠ op.spelling := by
  intro heq
  cases a with
  | term text => exact h.2 op (congrArg Atom.term heq)
  | wildcard pattern =>
    obtain rfl : pattern = op.spelling := heq
    obtain ⟨c, hc, hmark⟩ := List.any_eq_true.1 h.1.2
    have hne := (op.of_mem_spelling c hc).2.2
    simp [hne] at hmark
  | phrase terms =>
    have hquote : '"' ∈ (Atom.phrase terms).queryString.toList := by
      rw [Atom.toList_queryString_phrase]
      exact List.mem_cons_self
    rw [heq] at hquote
    exact (op.of_mem_spelling '"' hquote).2.1 rfl

theorem shown_inj {p p' : Part} (hp : p.Legible) (hp' : p'.Legible) (h : p.shown = p'.shown) :
    p = p' := by
  cases p with
  | atom a =>
    cases p' with
    | atom a' => exact congrArg atom (Atom.queryString_inj hp.1 hp'.1 h)
    | operator op' => exact absurd h (hp.queryString_ne op')
  | operator op =>
    cases p' with
    | atom a' => exact absurd h.symm (hp'.queryString_ne op)
    | operator op' => exact congrArg operator (Operator.spelling_inj h)

end Part

/-- The list of legible parts determines them. -/
theorem partsText_inj {ps ps' : List Part} (hps : ∀ p ∈ ps, p.Legible)
    (hps' : ∀ p ∈ ps', p.Legible) (h : partsText ps = partsText ps') : ps = ps' :=
  bracketed_map_inj (fun _ => Part.spaced_shown) (fun _ _ => Part.shown_inj) hps hps' h

/-- Every term among the parts of a token is one of the analyzer. -/
theorem Token.exists_word_of_term_mem_analyze {analyzer : Analyzer} {t : Token} {term : String}
    (h : .atom (.term term) ∈ t.analyze analyzer) : ∃ word, term ∈ analyzer word := by
  cases t with
  | word text =>
    rw [analyze_word] at h
    split at h
    · cases Part.atom.inj (List.mem_singleton.1 h)
    · obtain ⟨term', hterm, heq⟩ := List.mem_map.1 h
      obtain rfl := Atom.term.inj (Part.atom.inj heq)
      exact ⟨text, hterm⟩
  | phrase text =>
    rw [analyze_phrase] at h
    cases (Part.mem_ofQuoted.1 h).2
  | operator op => cases List.mem_singleton.1 h

/-- The parts of a raw text are legible. -/
theorem legible_of_mem_analyzeTokens {analyzer : Analyzer} (hterms : LegibleTerms analyzer)
    (hops : ∀ word, ∀ term ∈ analyzer word, ∀ op : Operator, term ≠ op.spelling) (raw : String) :
    ∀ p ∈ analyzeTokens analyzer (Token.scan raw), p.Legible := by
  intro p hp
  obtain ⟨t, ht, hp⟩ := mem_analyzeTokens.1 hp
  cases p with
  | operator op => trivial
  | atom a =>
    refine ⟨hterms.legible_of_mem_analyze (Token.proper_of_mem_scan ht) hp, ?_⟩
    rintro op rfl
    obtain ⟨word, hterm⟩ := Token.exists_word_of_term_mem_analyze hp
    exact hops word _ hterm op rfl

/-! ## Raw texts -/

/-- The list of the tokens of a raw text determines them, and so does the list of its parts if the
terms of the analyzer are legible and none of them is spelled as an operator. -/
theorem bracketedLists_unambiguous :
    (∀ raw raw', tokensText (Token.scan raw) = tokensText (Token.scan raw') →
      Token.scan raw = Token.scan raw') ∧
    ∀ analyzer : Analyzer, LegibleTerms analyzer →
      (∀ word, ∀ term ∈ analyzer word, ∀ op : Operator, term ≠ op.spelling) →
      ∀ raw raw', partsText (analyzeTokens analyzer (Token.scan raw)) =
          partsText (analyzeTokens analyzer (Token.scan raw')) →
        analyzeTokens analyzer (Token.scan raw) = analyzeTokens analyzer (Token.scan raw') := by
  constructor
  · intro raw raw' h
    exact tokensText_inj (fun _ => Token.proper_of_mem_scan) (fun _ => Token.proper_of_mem_scan) h
  · intro analyzer hterms hops raw raw' h
    exact partsText_inj (legible_of_mem_analyzeTokens hterms hops raw)
      (legible_of_mem_analyzeTokens hterms hops raw') h

/-- The words with neither blanks nor marks, other than operators in capitals. -/
def legibleWords : Analyzer := fun word =>
  (Compiler.legibleCompiler.analyzer word).filter fun term =>
    term ∉ [Operator.and, .or, .not].map Operator.spelling

/-- A phrase that shows the end of one item and the start of another, and a word with brackets. -/
theorem bracketedLists_unambiguous_brackets :
    (tokensText (Token.scan "x] or\"a] [b\nAND\" [c*") = "[x]] [OR] [\"a] [b\nAND\"] [[c*]" ∧
      Token.scan "x] or\"a] [b\nAND\" [c*" = Token.scan "x] OR \"a] [b\nAND\"[c*") ∧
    (partsText (analyzeTokens legibleWords (Token.scan "x] or\"a] [b\nAND\" [c*")) =
        "[x]] [OR] [\"a] [b\"] [[c*]" ∧
      analyzeTokens legibleWords (Token.scan "x] or\"a] [b\nAND\" [c*") =
        analyzeTokens legibleWords (Token.scan "x] or \" a]  [b\" [c*")) := by
  have hterms : LegibleTerms legibleWords := fun word term hterm =>
    Compiler.legibleTerms_legibleCompiler word term (List.mem_filter.1 hterm).1
  have hops : ∀ word, ∀ term ∈ legibleWords word, ∀ op : Operator, term ≠ op.spelling := by
    rintro word _ hterm op rfl
    have hnot := (List.mem_filter.1 hterm).2
    cases op <;> simp at hnot
  refine ⟨⟨by decide +kernel, ?_⟩, by decide +kernel, ?_⟩
  · exact bracketedLists_unambiguous.1 _ _ (by decide +kernel)
  · exact bracketedLists_unambiguous.2 legibleWords hterms hops _ _ (by decide +kernel)

end HelpQuery
