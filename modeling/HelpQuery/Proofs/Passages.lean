import HelpQuery.Index.BuiltIn
import HelpQuery.Index.Search
import HelpQuery.Proofs.Analysis
import HelpQuery.Proofs.Combination
import HelpQuery.Proofs.Engine
import HelpQuery.Proofs.Occurrences

/-!
# Quoted passages

A passage of a text that blanks or the ends of the text bound has its terms next to each other
among the terms of the text, whatever is left out before, inside or behind it.  The positions of the
terms have no gaps, so in the index, too, nothing stands between those of the passage.  Put between
quotation marks, it is one phrase of just these terms, and so finds the document with the text.

    (p.postings text).toList = placedFrom 0 (p.terms text)
-/

namespace HelpQuery

/-! ## Passages of texts -/

/-- A text is empty or ends in a blank. -/
def EndsBlank (text : String) : Prop := text = "" ∨ ∃ c ∈ text.toList.getLast?, Text.isBlank c

/-- A text is empty or starts with a blank. -/
def StartsBlank (text : String) : Prop := text = "" ∨ ∃ c ∈ text.toList.head?, Text.isBlank c

namespace Pipeline

variable (p : Pipeline)

theorem charTerms_endsBlank {a : String} (ha : EndsBlank a) (b : List Char) :
    p.charTerms (a.toList ++ b) = p.charTerms a.toList ++ p.charTerms b := by
  rcases ha with rfl | ⟨c, hc, hblank⟩
  · rfl
  · obtain ⟨init, hinit⟩ := List.getLast?_eq_some_iff.1 hc
    have hnil : p.charTerms [] = [] := rfl
    rw [hinit, List.append_assoc, List.singleton_append, p.charTerms_append_blank init b hblank,
      p.charTerms_append_blank init [] hblank, hnil, List.append_nil]

theorem charTerms_startsBlank (a : List Char) {b : String} (hb : StartsBlank b) :
    p.charTerms (a ++ b.toList) = p.charTerms a ++ p.charTerms b.toList := by
  rcases hb with rfl | ⟨c, hc, hblank⟩
  · simp [charTerms, runsFrom]
  · obtain ⟨rest, hrest⟩ := List.head?_eq_some_iff.1 hc
    have hcons : p.charTerms (c :: rest) = p.charTerms rest :=
      p.charTerms_append_blank [] rest hblank
    rw [hrest, p.charTerms_append_blank a rest hblank, hcons]

/-- The terms of a passage stand next to each other in the text. -/
theorem terms_infix {before after : String} (passage : String) (hb : EndsBlank before)
    (ha : StartsBlank after) : p.terms passage <:+: p.terms (before ++ passage ++ after) := by
  refine ⟨p.terms before, p.terms after, ?_⟩
  simp only [terms_eq, String.toList_append, List.append_assoc]
  rw [p.charTerms_endsBlank hb, p.charTerms_startsBlank _ ha]

end Pipeline

/-! ## Quoted texts -/

/-- A text between quotation marks. -/
def quoted (text : String) : String := "\"" ++ text ++ "\""

theorem scan_quoted {text : String} (h : '"' ∉ text.toList) :
    Token.scan (quoted text) = [.phrase text] := by
  have hlist : (quoted text).toList = [] ++ '"' :: (text.toList ++ '"' :: []) := by
    simp [quoted, String.toList_append]
  rw [Token.scan_eq, hlist, Token.scanChars_pair [] (by simp) h, Token.scanChars_nil,
    String.ofList_toList]
  rfl

/-- A quoted text is one phrase of its terms. -/
theorem parts_quoted (p : Pipeline) {text : String} (h : '"' ∉ text.toList)
    (hterms : p.terms text ≠ []) :
    analyzeTokens p.analyzer (Token.scan (quoted text)) = [.atom (.phrase (p.terms text))] := by
  rw [scan_quoted h, analyzeTokens_eq_flatMap, List.flatMap_singleton, Token.analyze_phrase,
    p.flatMap_quotedWords, Part.ofQuoted_of_ne_nil hterms]

/-- A query of one atom finds the documents that have it in some field. -/
theorem finds_build_atom (fields : FieldSet) (a : Atom) (d : Document) :
    Finds d (build fields [.atom a]) ↔ a.FoundInAny fields d := by
  rw [finds_build_single fields (by simp)]
  simp [signedAtoms, SignedAtom.Holds]

/-! ## Positions of terms -/

theorem map_posting_eq_placedFrom {os : List Occurrence} {i : Nat}
    (h : os.map Occurrence.position = List.range' i os.length) :
    os.map (fun o => ⟨o.term, o.position⟩) = placedFrom i (os.map Occurrence.term) := by
  induction os generalizing i with
  | nil => rfl
  | cons o os ih =>
    obtain ⟨hfirst, hrest⟩ := List.cons.inj h
    rw [List.map_cons, List.map_cons, placedFrom, ih hrest, hfirst]

namespace Pipeline

variable (p : Pipeline)

/-- The terms of a text stand at the positions from zero on. -/
theorem toList_postings (text : String) :
    (p.postings text).toList = placedFrom 0 (p.terms text) := by
  have hpositions := p.map_position_occurrences text
  rw [List.range_eq_range'] at hpositions
  show (p.tokens text).map _ = _
  rw [tokens_eq, map_posting_eq_placedFrom hpositions]
  rfl

theorem terms_postings (text : String) : (p.postings text).terms = p.terms text := by
  rw [Postings.terms, toList_postings, map_term_placedFrom]

/-- A text with a term is a single passage. -/
theorem passages_postings {text : String} (h : p.terms text ≠ []) :
    (p.postings text).passages = [p.terms text] := by
  rw [Postings.passages_of_isChain, terms_postings]
  · rw [← terms_postings, Postings.terms] at h
    exact fun hnil => h (by rw [hnil]; rfl)
  · rw [toList_postings]
    exact isChain_placedFrom 0 _

end Pipeline

/-! ## Stored texts -/

namespace Index

theorem name_of_postingsOf {ix : Index} {texts : FieldTexts} {g : SchemaField} {name : String}
    {postings : Postings} (h : ix.postingsOf texts g = some (name, postings)) : name = g.name := by
  unfold postingsOf at h
  split at h
  · exact (congrArg Prod.fst (Option.some.inj h)).symm
  · cases h

/-- The first field of a name has its postings stored under the name. -/
theorem lookup_postingsOf {ix : Index} {texts : FieldTexts} {fields : List SchemaField}
    {g : SchemaField} {f : String} {postings : Postings}
    (hfind : fields.find? (·.name == f) = some g)
    (hg : ix.postingsOf texts g = some (f, postings)) :
    (fields.filterMap (ix.postingsOf texts)).lookup f = some postings := by
  induction fields with
  | nil => cases hfind
  | cons x rest ih =>
    rw [List.find?_cons] at hfind
    split at hfind
    · obtain rfl := Option.some.inj hfind
      simp [hg]
    · next hx =>
      have hx : x.name ≠ f := by simpa using hx
      rw [List.filterMap_cons]
      cases hp : ix.postingsOf texts x with
      | none => exact ih hfind
      | some entry =>
        obtain ⟨name, stored⟩ := entry
        have hname : f ≠ name := by
          rw [name_of_postingsOf hp]
          exact hx.symm
        rw [List.lookup_cons, beq_false_of_ne hname]
        exact ih hfind

/-- A field that the registered pipeline analyzes has the postings of its texts. -/
theorem postings_store (ix : Index) (texts : FieldTexts) {f : String} {record : Indexing}
    (hkind : ix.schema.kind? f = some (.text (some ⟨.registered, record⟩))) :
    (ix.store texts).postings f = .concat ((texts.of f).map ix.pipeline.postings) := by
  obtain ⟨g, hfind, hg⟩ := Option.map_eq_some_iff.1 hkind
  have hname : g.name = f := by simpa using List.find?_some hfind
  have hstored : ix.postingsOf texts g =
      some (f, .concat ((texts.of f).map ix.pipeline.postings)) := by
    rw [postingsOf, hg, hname]
    rfl
  rw [StoredDocument.postings, store, lookup_postingsOf hfind hstored]
  rfl

end Index

/-! ## The passage finds its document -/

/-- A quoted passage that has a term matches every document with a text it stands in, and so does the
engine query of its tree, in an index that analyzes texts as the query's words are: by any pipeline,
so by that of any language, with and without stop words. -/
theorem quoted_passage_matches (E : Engine) (ix : Index) (fields : FieldSet)
    (options : CompileOptions) (texts : FieldTexts) (f before passage after : String)
    (hf : f ∈ fields.names)
    (hkind : ix.schema.kind? f = some (.text (some ⟨.registered, .positions⟩)))
    (htext : texts.of f = [before ++ passage ++ after])
    (hb : EndsBlank before) (ha : StartsBlank after) (hquote : '"' ∉ passage.toList)
    (hterms : ix.pipeline.terms passage ≠ []) :
    ∃ tree, ((Compiler.mk ix.pipeline.analyzer fields options).compile (quoted passage)).tree? =
        some tree ∧
      tree.Matches (ix.store texts).passages ∧
      ∀ query, tree.compile E ix.schema = .ok query →
        query.holds (ix.store texts).postings = true := by
  have hparts := parts_quoted ix.pipeline hquote hterms
  obtain ⟨g, hg, rfl⟩ := List.mem_map.1 hf
  have hfound : (Atom.phrase (ix.pipeline.terms passage)).FoundInAny fields
      (ix.store texts).passages := by
    have hinfix := ix.pipeline.terms_infix passage hb ha
    have hne : ix.pipeline.terms (before ++ passage ++ after) ≠ [] := by
      intro hnil
      rw [hnil] at hinfix
      exact hterms (List.infix_nil.1 hinfix)
    refine ⟨g, hg, hterms, _, ?_, hinfix⟩
    rw [StoredDocument.passages, ix.postings_store texts hkind, Postings.passages_concat, htext,
      List.map_singleton, List.flatMap_singleton, Pipeline.passages_postings _ hne]
    exact List.mem_singleton.2 rfl
  have hfinds : Finds (ix.store texts).passages
      ((Compiler.mk ix.pipeline.analyzer fields options).compile (quoted passage)).tree? := by
    rw [Compiler.finds_compile, Compiler.parts_compile, hparts, finds_build_atom]
    exact hfound
  obtain ⟨tree, htree, hmatches⟩ := hfinds
  exact ⟨tree, htree, hmatches, fun query h => (Tree.holds_compile _ h).2 hmatches⟩

/-- An index of English texts without their stop words. -/
def viewIndex : Index :=
  .empty (.ofFieldSet titleAndContents) (Language.english.pipeline .builtIn true)

def viewTexts : FieldTexts := [("contents", ["Open the table of contents view"])]

theorem quoted_passage_matches_view :
    ∃ tree query,
      ((Compiler.mk viewIndex.pipeline.analyzer titleAndContents .default).compile
        (quoted "the table of contents")).tree? = some tree ∧
      tree.Matches (viewIndex.store viewTexts).passages ∧
      tree.compile .builtIn viewIndex.schema = .ok query ∧
      query.holds (viewIndex.store viewTexts).postings = true := by
  let compiled := (Compiler.mk viewIndex.pipeline.analyzer titleAndContents .default).compile
    (quoted "the table of contents")
  have hbefore : EndsBlank "Open " := .inr ⟨' ', rfl, rfl⟩
  have hafter : StartsBlank " view" := .inr ⟨' ', rfl, rfl⟩
  have hterms : viewIndex.pipeline.terms "the table of contents" ≠ [] := by decide +kernel
  have hok : ∀ tree ∈ compiled.tree?, (tree.compile .builtIn viewIndex.schema).isOk = true := by
    decide +kernel
  obtain ⟨tree, htree, hmatches, hholds⟩ := quoted_passage_matches .builtIn viewIndex
    titleAndContents .default viewTexts "contents" "Open " "the table of contents" " view"
    (by decide) rfl rfl hbefore hafter (by decide) hterms
  cases hcompile : tree.compile .builtIn viewIndex.schema with
  | error e =>
    have htreeOk := hok tree htree
    rw [hcompile] at htreeOk
    cases htreeOk
  | ok query => exact ⟨tree, query, htree, hmatches, hcompile, hholds query hcompile⟩

end HelpQuery
