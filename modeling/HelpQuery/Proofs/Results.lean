import HelpQuery.Proofs.Collecting
import HelpQuery.Proofs.Counterparts
import HelpQuery.Proofs.Serving

/-!
# Results of searches

A search that succeeds gives the best of the documents that the tree matches, each document once and
no more than the limit.  If the engine collects all documents with a score that counts, then it gives
as many of these as the limit allows:

    hits <+~ ix.matching tree,    hits.length = min limit (ix.counting E tree query).length
-/

namespace HelpQuery

/-! ## Deciding what matches -/

instance (p t : List Char) : Decidable (Fits p t) :=
  decidable_of_iff _ (RegexItem.matchAll_ofWildcard p t)

instance (passages : List (List String)) : (a : Atom) → Decidable (a.FoundIn passages)
  | .term text => inferInstanceAs (Decidable (∃ p ∈ passages, text ∈ p))
  | .wildcard pattern =>
    inferInstanceAs (Decidable (∃ p ∈ passages, ∃ t ∈ p, Fits pattern.toList t.toList))
  | .phrase terms => inferInstanceAs (Decidable (terms ≠ [] ∧ ∃ p ∈ passages, terms <:+: p))

namespace Tree

mutual

/-- Whether a document matches a tree is decided from the leaves up. -/
def decidableMatches (d : Document) : (tree : Tree) → Decidable (tree.Matches d)
  | leaf field a _ => inferInstanceAs (Decidable (a.FoundIn (d field)))
  | boolean cs =>
    let flags := decideClauses d cs
    decidable_of_iff (groupHolds flags.1 = true) <| by
      rw [groupHolds_iff, flags.2]
      exact Iff.rfl

/-- Which clauses match, as their meaning has it. -/
def decideClauses (d : Document) : (cs : List (Clause Tree)) →
    { flags : List (Requirement × Bool) //
      flags.map (fun c => (c.1, c.2 = true)) = clauseMatches d cs }
  | [] => ⟨[], rfl⟩
  | ⟨requirement, query⟩ :: rest =>
    have := decidableMatches d query
    let flags := decideClauses d rest
    ⟨(requirement, decide (query.Matches d)) :: flags.1, by
      rw [List.map_cons, flags.2, clauseMatches, decide_eq_true_eq]⟩

end

instance (d : Document) (tree : Tree) : Decidable (tree.Matches d) := tree.decidableMatches d

end Tree

/-! ## Documents that count -/

namespace Index

/-- The documents of an index that a tree matches. -/
def matching (ix : Index) (tree : Tree) : List StoredDocument :=
  ix.documents.filter fun d => tree.Matches d.passages

variable (E : Engine) (ix : Index)

/-- All documents of an index are collected that a query holds of with a score that counts. -/
def CollectsAll (query : EngineQuery Single) : Prop :=
  ∀ documents ∈ ix.segments, E.CollectsAll (ix.segment documents) query

/-- The documents that a tree matches and to which its query gives a score that counts. -/
def counting (tree : Tree) (query : EngineQuery Single) : List StoredDocument :=
  ix.segments.flatMap fun documents => documents.filter fun d =>
    tree.Matches d.passages ∧ scoreCounts (E.score (ix.segment documents) query d) = true

/-- Where all scores count, all documents do that the tree matches. -/
theorem counting_eq_matching {tree : Tree} {query : EngineQuery Single}
    (h : ∀ documents ∈ ix.segments, ∀ d ∈ documents, tree.Matches d.passages →
      scoreCounts (E.score (ix.segment documents) query d) = true) :
    ix.counting E tree query = ix.matching tree := by
  rw [counting, matching, documents, List.filter_flatten, ← List.flatMap_def]
  refine List.flatMap_congr fun documents hdocuments => List.filter_congr fun d hd => ?_
  rw [decide_eq_decide]
  exact and_iff_left_of_imp (h documents hdocuments d hd)

/-! ## Documents that are collected -/

section Collected

variable {E} {tree : Tree} {query : EngineQuery Single}

theorem map_document_collect :
    (ix.collect E query).map Found.document =
      ix.segments.flatMap fun documents => E.collect (ix.segment documents) query := by
  simp [collect, List.map_flatMap, Function.comp_def]

variable (hcompile : tree.compile E ix.schema = .ok query)

include hcompile

theorem holds_eq_matches (d : StoredDocument) :
    query.holds d.postings = decide (tree.Matches d.passages) := by
  rw [Bool.eq_iff_iff, decide_eq_true_iff]
  exact Tree.holds_compile d.postings hcompile

/-- What is collected is in the index and the tree matches it. -/
theorem collect_sublist_matching (hsound : E.Sound) :
    ((ix.collect E query).map Found.document).Sublist (ix.matching tree) := by
  rw [map_document_collect, matching, documents, List.filter_flatten, ← List.flatMap_def]
  refine List.Sublist.flatMap_right _ fun documents _ => ?_
  simp only [← ix.holds_eq_matches hcompile]
  exact hsound (ix.segment documents) query

theorem collect_eq_counting (hcollects : ix.CollectsAll E query) :
    (ix.collect E query).map Found.document = ix.counting E tree query := by
  rw [map_document_collect, counting]
  refine List.flatMap_congr fun documents hdocuments => ?_
  rw [hcollects documents hdocuments]
  refine List.filter_congr fun d _ => ?_
  rw [ix.holds_eq_matches hcompile, Bool.decide_and, Bool.decide_eq_true]

end Collected

/-- The best documents are some of those that are found. -/
theorem subperm_best (limit : Nat) (found : List Found) :
    ((best limit found).map Found.document).Subperm (found.map Found.document) :=
  ((List.take_sublist limit _).map _).subperm.trans ((List.mergeSort_perm found _).map _).subperm

theorem length_best (limit : Nat) (found : List Found) :
    (best limit found).length = min limit found.length := by
  rw [best, List.length_take, List.length_mergeSort]

end Index

/-! ## Results -/

/-- Documents that are a result of searching for a tree with its query: the tree matches them, none
of them is there more often than in the index, and there are no more than the limit; if the engine
collects all that count, then they are as many of these as the limit allows. -/
structure HitsOf (E : Engine) (ix : Index) (tree : Tree) (query : EngineQuery Single) (limit : Nat)
    (hits : List StoredDocument) : Prop where
  matching : hits.Subperm (ix.matching tree)
  length_le : hits.length ≤ limit
  length_eq : ix.CollectsAll E query → hits.length = min limit (ix.counting E tree query).length
  all : ix.CollectsAll E query → (ix.counting E tree query).length ≤ limit →
    hits.Perm (ix.counting E tree query)

/-- What a lookup needs is missing: a term is looked for in a field that is not indexed, or a phrase
in one without positions. -/
inductive Lookup.Unserved (s : Schema) : Lookup → EngineError → Prop where
  | term {field text : String} : (∀ indexing, s.kind? field ≠ some (.text (some indexing))) →
      Unserved s (.term field text) (.notIndexed field)
  | phrase {field : String} {terms : List String} :
      (∀ tokenizer, s.kind? field ≠ some (.text (some ⟨tokenizer, .positions⟩))) →
      Unserved s (.phrase field terms) (.noPositions field)

theorem Lookup.fault?_eq_some_iff {s : Schema} {lookup : Lookup} {e : EngineError} :
    lookup.fault? s = some e ↔ lookup.Unserved s e := by
  constructor
  · intro h
    unfold fault? at h
    split at h
    · split at h
      · cases h
      · next hkind =>
        obtain rfl := Option.some.inj h
        exact .term hkind
    · split at h
      · cases h
      · next hkind =>
        obtain rfl := Option.some.inj h
        exact .phrase hkind
    · cases h
  · intro h
    cases h with
    | term hkind =>
      rw [fault?]
      split
      · next indexing hindexed => exact absurd hindexed (hkind indexing)
      · rfl
    | phrase hkind =>
      rw [fault?]
      split
      · next tokenizer hpositions => exact absurd hpositions (hkind tokenizer)
      · rfl

namespace Index

theorem hitsOf_best {E : Engine} (hsound : E.Sound) {ix : Index} {tree : Tree}
    {query : EngineQuery Single} (hcompile : tree.compile E ix.schema = .ok query) (limit : Nat) :
    HitsOf E ix tree query limit ((best limit (ix.collect E query)).map Found.document) := by
  have hsome := subperm_best limit (ix.collect E query)
  have hlength : ((best limit (ix.collect E query)).map Found.document).length =
      min limit ((ix.collect E query).map Found.document).length := by
    rw [List.length_map, List.length_map, length_best]
  refine ⟨hsome.trans (ix.collect_sublist_matching hcompile hsound).subperm, ?_, fun hcollects => ?_,
    fun hcollects hlimit => ?_⟩
  · rw [hlength]
    exact Nat.min_le_left ..
  · rw [hlength, ix.collect_eq_counting hcompile hcollects]
  · rw [ix.collect_eq_counting hcompile hcollects] at hsome hlength
    refine hsome.perm_of_length_le ?_
    rw [hlength, Nat.min_eq_right hlimit]

/-- A search without a tree or with a limit of zero has no hits, whatever the schema lacks; every
other one fails without a key field, and then with the error of the tree if it has one.  Else it
fails if what a leaf needs is missing, and if nothing is, there are hits. -/
theorem search_finds (E : Engine) (hsound : E.Sound) (ix : Index) (q : CompiledQuery)
    (limit : Nat) :
    (limit = 0 ∨ q.tree? = none → ix.search E q limit = .ok ⟨[], q.highlightTerms⟩) ∧
    ∀ tree, q.tree? = some tree → limit ≠ 0 →
      (ix.schema.kind? Schema.keyName = none →
        ix.search E q limit = .error (.unknownField Schema.keyName)) ∧
      (ix.schema.kind? Schema.keyName ≠ none →
        (∀ e, tree.compile E ix.schema = .error e → ix.search E q limit = .error e) ∧
        ∀ query, tree.compile E ix.schema = .ok query →
          (∃ lookup ∈ query.lookups, ∃ e, lookup.Unserved ix.schema e ∧
            ix.search E q limit = .error e) ∨
          (∀ lookup ∈ query.lookups, ∀ e, ¬ lookup.Unserved ix.schema e) ∧
            ∃ hits : List Found, HitsOf E ix tree query limit (hits.map Found.document) ∧
              ix.search E q limit = .ok ⟨hits.map Found.hit, q.highlightTerms⟩) := by
  refine ⟨ix.search_of_nothing E, fun tree htree hlimit => ?_⟩
  rw [ix.search_of_tree E htree hlimit]
  refine ⟨fun hkey => ?_, fun hkey => ⟨fun e he => ?_, fun query hquery => ?_⟩⟩
  · unfold find
    rw [hkey]
    rfl
  · unfold find
    obtain ⟨kind, hkind⟩ := Option.ne_none_iff_exists'.1 hkey
    rw [hkind, he]
    rfl
  · rw [ix.find_of_compile (Option.isSome_iff_ne_none.2 hkey) hquery]
    cases hfault : query.lookups.findSome? (Lookup.fault? ix.schema) with
    | none =>
      refine Or.inr ⟨fun lookup hmem e he => ?_, _, hitsOf_best hsound hquery limit, rfl⟩
      have hnone := List.findSome?_eq_none_iff.1 hfault lookup hmem
      rw [Lookup.fault?_eq_some_iff.2 he] at hnone
      cases hnone
    | some e =>
      obtain ⟨lookup, hmem, hsome⟩ := List.exists_of_findSome?_eq_some hfault
      exact Or.inl ⟨lookup, hmem, e, Lookup.fault?_eq_some_iff.1 hsome, rfl⟩

/-! ### Small indexes -/

/-- The schema of documents with a key and contents. -/
def contentsSchema : Schema :=
  ⟨[⟨Schema.keyName, .text (some ⟨.raw, .basic⟩)⟩,
    ⟨"contents", .text (some ⟨.registered, .positions⟩)⟩]⟩

/-- An index of contents by their keys, in which words are left as they are. -/
def ofContents (entries : List (String × String)) : Index :=
  let ix := empty contentsSchema ⟨fun _ => false, id⟩
  (entries.foldl (fun ix entry =>
    ix.add [(Schema.keyName, [entry.1]), ("contents", [entry.2])]) ix).commit

/-- A compiled query that is a tree alone. -/
def queryOf (tree : Tree) : CompiledQuery := ⟨"", [], [], some tree, ""⟩

def editors : Index :=
  ofContents [("/a", "java editor"), ("/b", "swing"), ("/c", "java swing editor")]

/-- Documents with one of two words. -/
def javaEditor : Tree :=
  .any [.leaf "contents" (.term "java") (.ofNat 5), .leaf "contents" (.term "editor") (.ofNat 2)]

/-- The union of two terms. -/
def javaEditorQuery : EngineQuery Single :=
  .boolean [⟨.optional, .leaf (.term "contents" "java") (.ofNat 5)⟩,
    ⟨.optional, .leaf (.term "contents" "editor") (.ofNat 2)⟩]

/-- The better one of two documents is found with a limit of one. -/
theorem search_finds_javaEditor :
    Engine.builtIn.Sound ∧ editors.CollectsAll .builtIn javaEditorQuery ∧
      editors.counting .builtIn javaEditor javaEditorQuery = editors.matching javaEditor ∧
      (editors.matching javaEditor).length = 2 ∧
      ∃ hits : List Found, hits.length = 1 ∧
        HitsOf .builtIn editors javaEditor javaEditorQuery 1 (hits.map Found.document) ∧
        editors.search .builtIn (queryOf javaEditor) 1 = .ok ⟨hits.map Found.hit, ""⟩ := by
  have hcollects : editors.CollectsAll .builtIn javaEditorQuery := by
    have fit : CountsFit editors.documents := ⟨by decide +kernel, by decide +kernel⟩
    have hboosts : javaEditorQuery.BoostsFit := ⟨by decide +kernel, Or.inl (by decide +kernel)⟩
    intro documents hdocuments
    exact collectsAll_of_boostsFit fit
      (fun d hd => List.mem_flatten.2 ⟨documents, hdocuments, hd⟩) hboosts
  have hcounting : editors.counting .builtIn javaEditor javaEditorQuery =
      editors.matching javaEditor :=
    counting_eq_matching .builtIn editors (by decide +kernel)
  have hmatching : (editors.matching javaEditor).length = 2 := by decide +kernel
  have hserved : ∀ lookup ∈ javaEditorQuery.lookups, lookup.fault? editors.schema = none := by
    decide +kernel
  obtain ⟨-, htree⟩ := search_finds .builtIn sound_builtIn editors (queryOf javaEditor) 1
  obtain ⟨-, hfinds⟩ := (htree javaEditor rfl one_ne_zero).2 (by decide +kernel)
  rcases hfinds javaEditorQuery rfl with ⟨lookup, hmem, e, he, -⟩ | ⟨-, hits, hhits, hsearch⟩
  · rw [← Lookup.fault?_eq_some_iff, hserved lookup hmem] at he
    cases he
  · refine ⟨sound_builtIn, hcollects, hcounting, hmatching, hits, ?_, hhits, hsearch⟩
    have hlength := hhits.length_eq hcollects
    rwa [hcounting, hmatching, List.length_map] at hlength

/-- The least finite boost hides a document that has the word. -/
theorem not_search_finds_leastBoost :
    ¬ ∀ (ix : Index) (q : CompiledQuery) (limit : Nat) (tree : Tree) (results : SearchResults),
      q.tree? = some tree → limit ≠ 0 → (∀ boost ∈ tree.boosts, boost.isFinite = true) →
        ix.search .builtIn q limit = .ok results →
          results.hits.length = min limit (ix.matching tree).length := by
  intro h
  let java : Tree := .leaf "contents" (.term "java") (-Single.greatest)
  have hsearch : (ofContents [("/a", "java"), ("/b", "swing")]).search .builtIn (queryOf java) 100 =
      .ok ⟨[], ""⟩ := by decide +kernel
  have hmatching : ((ofContents [("/a", "java"), ("/b", "swing")]).matching java).length = 1 := by
    decide +kernel
  have hlength := h _ _ 100 java _ rfl (by decide) (by decide +kernel) hsearch
  rw [hmatching] at hlength
  exact absurd hlength (by decide)

end Index

end HelpQuery
