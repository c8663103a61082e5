import HelpQuery.Proofs.Concatenation
import HelpQuery.Proofs.Fringes
import Mathlib.Data.List.Flatten

/-!
# Where the texts of a query come from

The words of a raw text stand outside its quotation marks or between two of them.  The analyzer is
given the words between marks, and outside those that are no operators and no wildcards; these are
taken over as they are.  The tree, the whole-query phrase and the terms to highlight are all read off
the same words:

    (analyzeTokensM (recording analyzer) (Token.scan raw)).run [] =
      (analyzeTokens analyzer (Token.scan raw), (sourceWords raw).filterMap SourceWord.analyzed?)
    partTerms (c.compile raw).parts = (sourceWords raw).flatMap (SourceWord.terms c.analyzer)
-/

namespace HelpQuery

/-! ## Words of a raw text -/

/-- A word of a raw text that is no operator. -/
inductive SourceWord where
  /-- A word outside quotation marks. -/
  | outside (text : String)
  /-- A word between two quotation marks. -/
  | inside (text : String)
  deriving DecidableEq, Repr

namespace SourceWord

/-- The word, if it is to be analyzed. -/
def analyzed? : SourceWord → Option String
  | outside text => if isWildcard text then none else some text
  | inside text => some text

/-- The word, if it is a pattern. -/
def wildcard? : SourceWord → Option String
  | outside text => if isWildcard text then some text else none
  | inside _ => none

/-- The terms of a word: a pattern itself, or what the analyzer makes of the word. -/
def terms (analyzer : Analyzer) : SourceWord → List String
  | outside text => if isWildcard text then [text] else analyzer text
  | inside text => analyzer text

end SourceWord

/-- The words of one of the segments between quotation marks, of which there are `count`.  Those at
odd places are quoted, and the last one among them only if it is not the last of all. -/
def segmentWords (count : Nat) : List Char × Nat → List SourceWord
  | (segment, i) =>
    if i % 2 = 0 then
      ((Text.words segment).filter fun w => Operator.ofWord? w = none).map fun w =>
        .outside (String.ofList w)
    else if i + 1 < count then (Text.words segment).map fun w => .inside (String.ofList w)
    else []

/-- The words of a raw text, in order, without operators and without what stands behind an unmatched
last quotation mark. -/
def sourceWords (raw : String) : List SourceWord :=
  let cuts := segments (· == '"') raw.toList
  cuts.zipIdx.flatMap (segmentWords cuts.length)

namespace Token

/-- The words of a raw text that a token stands for. -/
def sources : Token → List SourceWord
  | word text => [.outside text]
  | phrase text => (quotedWords text).map .inside
  | operator _ => []

theorem flatMap_sources_words (segment : List Char) :
    ((Text.words segment).map ofWord).flatMap sources =
      ((Text.words segment).filter fun w => Operator.ofWord? w = none).map fun w =>
        .outside (String.ofList w) := by
  induction Text.words segment with
  | nil => rfl
  | cons w ws ih =>
    rw [List.map_cons, List.flatMap_cons, ih, List.filter_cons, ofWord]
    cases Operator.ofWord? w <;> rfl

/-- The side of a segment is told by its place. -/
theorem flatMap_sources_ofSegments (cuts : List (List Char)) (k : Nat) :
    (ofSegments (k % 2 == 1) cuts).flatMap sources =
      (cuts.zipIdx k).flatMap (segmentWords (k + cuts.length)) := by
  induction cuts generalizing k with
  | nil => rfl
  | cons segment rest ih =>
    have hrest := ih (k + 1)
    rw [Nat.add_right_comm, Nat.add_assoc] at hrest
    rw [List.zipIdx_cons, List.flatMap_cons, List.length_cons, segmentWords, ← hrest]
    by_cases hk : k % 2 = 0
    · have hnow : (k % 2 == 1) = false := by simp [hk]
      have hnext : ((k + 1) % 2 == 1) = true := by
        rw [beq_iff_eq]
        omega
      rw [if_pos hk, hnow, hnext, ofSegments, if_neg Bool.false_ne_true, List.flatMap_append,
        flatMap_sources_words]
    · have hnow : (k % 2 == 1) = true := by
        rw [beq_iff_eq]
        omega
      have hnext : ((k + 1) % 2 == 1) = false := by
        rw [beq_eq_false_iff_ne]
        omega
      rw [if_neg hk, hnow, hnext, ofSegments, if_pos rfl]
      cases rest with
      | nil =>
        rw [if_pos rfl, if_neg (by simp)]
        rfl
      | cons next rest =>
        rw [if_neg (List.cons_ne_nil _ _), if_pos (by simp), List.flatMap_cons, sources,
          quotedWords, String.toList_ofList, List.map_map]
        rfl

/-- The tokens of a raw text stand for its words. -/
theorem flatMap_sources_scan (raw : String) : (scan raw).flatMap sources = sourceWords raw := by
  have h := flatMap_sources_ofSegments (segments (· == '"') raw.toList) 0
  rw [Nat.zero_add] at h
  rw [scan_eq]
  exact h

/-! ## What becomes of the words -/

theorem analyzedWords_eq (t : Token) :
    t.analyzedWords = t.sources.filterMap SourceWord.analyzed? := by
  cases t with
  | word text =>
    rw [analyzedWords, sources, List.filterMap_cons, SourceWord.analyzed?]
    split <;> rfl
  | phrase text =>
    rw [analyzedWords, sources, List.filterMap_map]
    exact List.filterMap_some.symm
  | operator op => rfl

/-- Only what the analyzer makes of the analyzed words matters. -/
theorem analyze_congr {analyzer other : Analyzer} {t : Token}
    (h : ∀ w ∈ t.analyzedWords, other w = analyzer w) : t.analyze other = t.analyze analyzer := by
  cases t with
  | word text =>
    rw [analyzedWords] at h
    rw [analyze_word, analyze_word]
    split
    · rfl
    · next hplain =>
      rw [if_neg hplain] at h
      rw [h text (List.mem_singleton_self text)]
  | phrase text =>
    rw [analyzedWords] at h
    rw [analyze_phrase, analyze_phrase, List.flatMap_congr h]
  | operator op => rfl

theorem partTerms_analyze (analyzer : Analyzer) (t : Token) :
    partTerms (t.analyze analyzer) = t.sources.flatMap (SourceWord.terms analyzer) := by
  cases t with
  | word text =>
    rw [analyze_word, sources, List.flatMap_singleton, SourceWord.terms]
    split
    · rfl
    · rw [partTerms, List.flatMap_map]
      exact List.flatMap_singleton' _
  | phrase text =>
    have hwords : (quotedWords text).flatMap analyzer =
        (sources (phrase text)).flatMap (SourceWord.terms analyzer) := by
      rw [sources, List.flatMap_map]
      rfl
    rw [← hwords, analyze_phrase]
    cases (quotedWords text).flatMap analyzer with
    | nil => rfl
    | cons term rest => simp [Part.ofQuoted, partTerms, Part.terms, Atom.terms]
  | operator op => rfl

end Token

/-- The pattern of an atom, if it is a wildcard. -/
def Atom.wildcard? : Atom → Option String
  | wildcard pattern => some pattern
  | _ => none

/-- No term that the analyzer returns becomes a wildcard. -/
theorem Token.wildcards_analyze (analyzer : Analyzer) (t : Token) :
    (groupAtoms (t.analyze analyzer)).filterMap Atom.wildcard? =
      t.sources.filterMap SourceWord.wildcard? := by
  cases t with
  | word text =>
    rw [analyze_word, sources, List.filterMap_cons, SourceWord.wildcard?]
    split
    · rfl
    · rw [groupAtoms, List.filterMap_map, List.filterMap_filterMap, List.filterMap_eq_nil_iff.2]
      · rfl
      · exact fun _ _ => rfl
  | phrase text =>
    have hnone : (sources (phrase text)).filterMap SourceWord.wildcard? = [] := by
      rw [sources, List.filterMap_map, List.filterMap_eq_nil_iff]
      exact fun _ _ => rfl
    rw [hnone, analyze_phrase]
    cases (quotedWords text).flatMap analyzer <;> rfl
  | operator op => rfl

section

variable (analyzer : Analyzer) (raw : String)

theorem flatMap_analyzedWords_scan :
    (Token.scan raw).flatMap Token.analyzedWords =
      (sourceWords raw).filterMap SourceWord.analyzed? := by
  rw [← Token.flatMap_sources_scan, List.filterMap_flatMap]
  exact List.flatMap_congr fun t _ => t.analyzedWords_eq

theorem analyzeTokens_congr {analyzer other : Analyzer}
    (h : ∀ w ∈ (sourceWords raw).filterMap SourceWord.analyzed?, other w = analyzer w) :
    analyzeTokens other (Token.scan raw) = analyzeTokens analyzer (Token.scan raw) := by
  rw [← flatMap_analyzedWords_scan] at h
  rw [analyzeTokens_eq_flatMap, analyzeTokens_eq_flatMap]
  exact List.flatMap_congr fun t ht =>
    Token.analyze_congr fun w hw => h w (List.mem_flatMap_of_mem ht hw)

theorem partTerms_analyzeTokens :
    partTerms (analyzeTokens analyzer (Token.scan raw)) =
      (sourceWords raw).flatMap (SourceWord.terms analyzer) := by
  rw [← Token.flatMap_sources_scan, analyzeTokens_eq_flatMap, partTerms, List.flatMap_assoc,
    List.flatMap_assoc]
  exact List.flatMap_congr fun t _ => t.partTerms_analyze analyzer

theorem wildcards_analyzeTokens :
    (groupAtoms (analyzeTokens analyzer (Token.scan raw))).filterMap Atom.wildcard? =
      (sourceWords raw).filterMap SourceWord.wildcard? := by
  rw [← Token.flatMap_sources_scan, analyzeTokens_eq_flatMap, groupAtoms, List.filterMap_flatMap,
    List.filterMap_flatMap, List.filterMap_flatMap]
  exact List.flatMap_congr fun t _ => t.wildcards_analyze analyzer

end

/-! ## Calls of the analyzer -/

/-- An analyzer that writes down the words it is given. -/
def recording (analyzer : Analyzer) (word : String) : StateM (List String) (List String) :=
  fun calls => (analyzer word, calls ++ [word])

/-- Steps that each write something down do so one after the other. -/
theorem run_mapM {α β : Type} {f : α → StateM (List String) β} {g : α → β}
    {written : α → List String} (h : ∀ x calls, (f x).run calls = (g x, calls ++ written x))
    (xs : List α) (calls : List String) :
    (xs.mapM f).run calls = (xs.map g, calls ++ xs.flatMap written) := by
  induction xs generalizing calls with
  | nil =>
    rw [List.flatMap_nil, List.append_nil]
    rfl
  | cons x xs ih =>
    rw [List.mapM_cons, StateT.run_bind, h x calls]
    show ((xs.mapM f >>= fun ys => pure (g x :: ys)).run (calls ++ written x) : Id _) = _
    rw [StateT.run_bind, ih (calls ++ written x), List.append_assoc]
    rfl

theorem Token.run_analyzeM (analyzer : Analyzer) (t : Token) (calls : List String) :
    (t.analyzeM (recording analyzer)).run calls =
      (t.analyze analyzer, calls ++ t.analyzedWords) := by
  cases t with
  | word text =>
    rw [analyzeM, analyze_word, analyzedWords]
    split
    · rw [List.append_nil]
      rfl
    · rfl
  | phrase text =>
    have hwords := run_mapM (fun w calls => show (recording analyzer w).run calls =
      (analyzer w, calls ++ [w]) from rfl) (quotedWords text) calls
    rw [List.flatMap_singleton'] at hwords
    rw [analyzeM, StateT.run_bind, hwords, analyze_phrase, analyzedWords, List.flatMap_def]
    rfl
  | operator op =>
    rw [analyzedWords, List.append_nil]
    rfl

theorem run_analyzeTokensM (analyzer : Analyzer) (tokens : List Token) :
    (analyzeTokensM (recording analyzer) tokens).run [] =
      (analyzeTokens analyzer tokens, tokens.flatMap Token.analyzedWords) := by
  have h := run_mapM (fun t calls => t.run_analyzeM analyzer calls) tokens []
  rw [analyzeTokensM, StateT.run_bind, h, analyzeTokens_eq_flatMap, List.flatMap_def]
  rfl

/-! ## Leaves with patterns -/

/-- The patterns at the leaves of a tree, each with its field, from left to right. -/
def Tree.wildcards (tree : Tree) : List (Field × String) :=
  tree.fringe.filterMap fun (f, a) => a.wildcard?.map (f, ·)

theorem filterMap_wildcard?_fields (fields : List Field) (atoms : List Atom) :
    (atoms.flatMap fun a => fields.map (·, a)).filterMap (fun (f, a) => a.wildcard?.map (f, ·)) =
      (atoms.filterMap Atom.wildcard?).flatMap fun pattern => fields.map (·, pattern) := by
  induction atoms with
  | nil => rfl
  | cons a atoms ih =>
    rw [List.flatMap_cons, List.filterMap_append, ih, List.filterMap_cons, List.filterMap_map]
    cases ha : a.wildcard? with
    | none => simp [ha]
    | some pattern => simp [ha]

/-- The groups with a plain atom have no other atoms than the query. -/
theorem groupAtoms_plainGroups_sublist (parts : List Part) :
    ((plainGroups parts).flatMap groupAtoms).Sublist (groupAtoms parts) := by
  have hall : (orGroups parts).flatMap groupAtoms = groupAtoms parts := by
    refine flatMap_segments _ (fun a x b hx => ?_) parts
    rw [beq_iff_eq.1 hx]
    exact List.filterMap_append
  rw [← hall]
  exact List.filter_sublist.flatMap _

/-- Whole-query phrases have no patterns. -/
theorem Tree.wildcards_any_wholePhrase (tree : Tree) (parts : List Part) (fields : List Field)
    (factor : Single) :
    (any (tree :: fields.map (wholePhrase parts factor))).wildcards = tree.wildcards := by
  rw [wildcards, fringe_any, List.flatMap_cons, List.flatMap_map, List.filterMap_append,
    List.filterMap_flatMap]
  simp [wildcards, wholePhrase, fringe, Atom.wildcard?]

/-- The patterns of a built query are those of its atoms, in the fields. -/
theorem wildcards_build {fields : FieldSet} {parts : List Part} {tree : Tree}
    (h : build fields parts = some tree) :
    tree.wildcards.Sublist <| ((groupAtoms parts).filterMap Atom.wildcard?).flatMap fun pattern =>
      fields.toList.map (·, pattern) := by
  have hfringe := fringe_build fields parts
  rw [h, Option.elim_some, ← List.flatMap_assoc] at hfringe
  rw [Tree.wildcards, hfringe, filterMap_wildcard?_fields]
  exact ((groupAtoms_plainGroups_sublist parts).filterMap _).flatMap _

/-! ## Compiled queries -/

namespace Compiler

variable (c : Compiler) (raw : String)

/-- What the analyzer makes of other words has no part in a query. -/
theorem compile_congr {other : Analyzer}
    (h : ∀ w ∈ (sourceWords raw).filterMap SourceWord.analyzed?, other w = c.analyzer w) :
    Compiler.compile ⟨other, c.fields, c.options⟩ raw = c.compile raw := by
  rw [compile, compile, analyzeTokens_congr raw h]

theorem highlightTerms_compile :
    (c.compile raw).highlightTerms = " ".intercalate (partTerms (c.compile raw).parts) := by
  rw [compile, highlightTerms]

theorem wildcards_compile {tree : Tree} (h : (c.compile raw).tree? = some tree) :
    tree.wildcards.Sublist <|
      ((sourceWords raw).filterMap SourceWord.wildcard?).flatMap fun pattern =>
        c.fields.toList.map (·, pattern) := by
  rw [← wildcards_analyzeTokens c.analyzer raw, ← c.parts_compile raw]
  obtain ⟨built, hbuilt, rfl | ⟨-, rfl⟩⟩ := c.tree_cases raw h
  · exact wildcards_build hbuilt
  · rw [Tree.wildcards_any_wholePhrase]
    exact wildcards_build hbuilt

/-- The analyzer is called on the words of a raw text in order, between quotation marks on all of
them and outside on those that are neither operators nor wildcards, and on nothing behind an
unmatched last mark; no other word has a part in the query.  Highlighted are the terms of all words,
a wildcard being its own term; the patterns at the leaves are wildcards of the raw text, and
whole-query phrases spell what is highlighted. -/
theorem compile_provenance :
    (analyzeTokensM (recording c.analyzer) (Token.scan raw)).run [] =
        ((c.compile raw).parts, (sourceWords raw).filterMap SourceWord.analyzed?) ∧
      (∀ other : Analyzer,
        (∀ w ∈ (sourceWords raw).filterMap SourceWord.analyzed?, other w = c.analyzer w) →
          Compiler.compile ⟨other, c.fields, c.options⟩ raw = c.compile raw) ∧
      (∀ p s : String, raw = p ++ "\"" ++ s → Even (p.toList.count '"') → '"' ∉ s.toList →
        sourceWords raw = sourceWords p) ∧
      (c.compile raw).highlightTerms =
        " ".intercalate ((sourceWords raw).flatMap (SourceWord.terms c.analyzer)) ∧
      ∀ tree, (c.compile raw).tree? = some tree →
        tree.wildcards.Sublist
            (((sourceWords raw).filterMap SourceWord.wildcard?).flatMap fun pattern =>
              c.fields.toList.map (·, pattern)) ∧
        ∃ built, build c.fields (c.compile raw).parts = some built ∧
          (tree = built ∨ ∃ phrases, tree = .any (built :: phrases) ∧
            ∀ q ∈ phrases, ∃ name terms boost, q = .leaf name (.phrase terms) boost ∧
              " ".intercalate terms = (c.compile raw).highlightTerms) := by
  refine ⟨?_, fun other hother => ?_, fun p s hraw hp hs => ?_, ?_,
    fun tree htree => ⟨c.wildcards_compile raw htree, ?_⟩⟩
  · rw [run_analyzeTokensM, flatMap_analyzedWords_scan, c.parts_compile]
  · exact c.compile_congr raw hother
  · rw [hraw, ← Token.flatMap_sources_scan, ← Token.flatMap_sources_scan,
      Token.scan_append_dangling hp hs]
  · rw [c.highlightTerms_compile, c.parts_compile, partTerms_analyzeTokens]
  · obtain ⟨built, hbuilt, hcases⟩ := c.tree_cases raw htree
    refine ⟨built, hbuilt, hcases.imp_right ?_⟩
    rintro ⟨-, rfl⟩
    refine ⟨_, rfl, fun q hq => ?_⟩
    obtain ⟨f, -, rfl⟩ := List.mem_map.1 hq
    exact ⟨f.name, _, _, rfl, (c.highlightTerms_compile raw).symm⟩

/-- A compiler whose analyzer has two terms for each word, one of them with a star. -/
def starringCompiler : Compiler :=
  ⟨fun word => [word, word ++ "*"], titleAndContents, .default⟩

/-- A star of the analyzer makes no pattern, and nothing is made of the text behind the mark. -/
theorem compile_provenance_starred :
    ((analyzeTokensM (recording starringCompiler.analyzer)
        (Token.scan "java edit* \"open")).run []).2 = ["java"] ∧
      Compiler.compile ⟨fun word => if word = "open" then [] else [word, word ++ "*"],
        titleAndContents, .default⟩ "java edit* \"open" =
          starringCompiler.compile "java edit* \"open" ∧
      sourceWords "java edit* \"open" = sourceWords "java edit* " ∧
      (starringCompiler.compile "java edit* \"open").highlightTerms = "java java* edit*" ∧
      ∃ built phrases, (starringCompiler.compile "java edit* \"open").tree? =
          some (.any (built :: phrases)) ∧
        (Tree.any (built :: phrases)).wildcards.Sublist
          (titleAndContents.toList.map (·, "edit*")) ∧
        ∀ q ∈ phrases, ∃ name terms boost, q = .leaf name (.phrase terms) boost ∧
          " ".intercalate terms = "java java* edit*" := by
  have hwords : sourceWords "java edit* \"open" = [.outside "java", .outside "edit*"] := by decide
  obtain ⟨hcalls, hother, hcut, hhighlight, htrees⟩ :=
    starringCompiler.compile_provenance "java edit* \"open"
  rw [hwords] at hcalls hother hhighlight htrees
  have hspelled : (starringCompiler.compile "java edit* \"open").highlightTerms =
      "java java* edit*" := by
    rw [hhighlight]
    decide
  refine ⟨?_, hother _ ?_,
    hcut "java edit* " "open" (by decide) ⟨0, by decide⟩ (by decide), hspelled, ?_⟩
  · rw [hcalls]
    decide
  · decide
  · have hsome : (starringCompiler.compile "java edit* \"open").tree?.isSome = true := by decide
    obtain ⟨tree, htree⟩ := Option.isSome_iff_exists.1 hsome
    obtain ⟨hpatterns, built, hbuilt, rfl | ⟨phrases, rfl, hphrases⟩⟩ := htrees tree htree
    · have hcounts := congrArg (Option.map Tree.leafCount) (htree.trans hbuilt.symm)
      exact absurd hcounts (by decide +kernel)
    · rw [hspelled] at hphrases
      exact ⟨built, phrases, htree, hpatterns, hphrases⟩

end Compiler

end HelpQuery
