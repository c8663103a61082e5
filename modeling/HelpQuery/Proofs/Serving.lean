import HelpQuery.Index.BuiltIn
import HelpQuery.Index.Search
import HelpQuery.Proofs.Leaves
import HelpQuery.Proofs.Fallible

/-!
# Which searches fail

A search looks every leaf of a tree up in the schema, and it fails just if one of them cannot be
served:

    (∃ found, ix.find E tree = .ok found) ↔
      ∀ leaf ∈ tree.leaves, ∃ lookup, ix.schema.serve E leaf = .ok lookup

The schema of a field set has all its names, so a leaf of a compiled query fails by a pattern the
engine refuses, or by a phrase in the key field, which has no positions.
-/

namespace HelpQuery

/-! ## Looking leaves up -/

/-- What is looked for in a schema for a leaf. -/
def Schema.lookup (s : Schema) (E : Engine) (leaf : String × Atom) : Except EngineError Lookup := do
  discard (s.textField leaf.1)
  leaf.2.lookup E leaf.1

namespace Tree

mutual

/-- Compiling a tree looks its leaves up, in order. -/
theorem map_lookups_compile (E : Engine) (s : Schema) (tree : Tree) :
    (tree.compile E s).map EngineQuery.lookups = tree.leaves.mapM (s.lookup E) := by
  match tree with
  | leaf field atom boost =>
    rw [compile, leaves, List.mapM_cons, List.mapM_nil, Schema.lookup]
    cases s.textField field with
    | error e => rfl
    | ok kind => cases atom.lookup E field <;> rfl
  | boolean cs =>
    rw [compile, leaves, ← map_lookups_compileClauses E s cs]
    cases compileClauses E s cs <;> rfl

theorem map_lookups_compileClauses (E : Engine) (s : Schema) (cs : List (Clause Tree)) :
    (compileClauses E s cs).map EngineQuery.clauseLookups =
      (clauseLeaves cs).mapM (s.lookup E) := by
  match cs with
  | [] => rfl
  | ⟨requirement, query⟩ :: rest =>
    rw [compileClauses, clauseLeaves, List.mapM_append, ← map_lookups_compile E s query,
      ← map_lookups_compileClauses E s rest]
    cases query.compile E s with
    | error e => rfl
    | ok q => cases compileClauses E s rest <;> rfl

end

end Tree

/-- What a search looks for on behalf of a leaf, if nothing it needs is missing from its field. -/
def Schema.serve (s : Schema) (E : Engine) (leaf : String × Atom) : Except EngineError Lookup := do
  let lookup ← s.lookup E leaf
  match lookup.fault? s with
  | some e => throw e
  | none => return lookup

theorem Schema.serve_of_lookup {E : Engine} {s : Schema} {leaf : String × Atom} {lookup : Lookup}
    (h : s.lookup E leaf = .ok lookup) :
    s.serve E leaf =
      match lookup.fault? s with
      | some e => .error e
      | none => .ok lookup := by
  rw [serve, h]
  rfl

namespace Index

theorem find_of_compile {E : Engine} (ix : Index) {tree : Tree} {query : EngineQuery Single}
    (hkey : (ix.schema.kind? Schema.keyName).isSome = true)
    (h : tree.compile E ix.schema = .ok query) :
    ix.find E tree =
      match query.lookups.findSome? (Lookup.fault? ix.schema) with
      | some e => .error e
      | none => .ok (ix.collect E query) := by
  have hnone : (ix.schema.kind? Schema.keyName).isNone = false := by simpa using hkey
  unfold find
  rw [hnone, h]
  rfl

/-- In an index with a key field, a tree is searched for if every leaf can be served, and ends with
the error of a leaf if not. -/
theorem find_cases (E : Engine) (ix : Index) (tree : Tree)
    (hkey : (ix.schema.kind? Schema.keyName).isSome = true) :
    ((∃ found, ix.find E tree = .ok found) ∧
        ∀ leaf ∈ tree.leaves, ∃ lookup, ix.schema.serve E leaf = .ok lookup) ∨
      ∃ e, ix.find E tree = .error e ∧ ∃ leaf ∈ tree.leaves, ix.schema.serve E leaf = .error e := by
  have hlookups := tree.map_lookups_compile E ix.schema
  cases hcompile : tree.compile E ix.schema with
  | error e =>
    rcases mapM_cases (ix.schema.lookup E) tree.leaves with ⟨_, hok, -⟩ | ⟨e', he, leaf, hleaf, hl⟩
    · rw [hcompile, hok] at hlookups
      cases hlookups
    · rw [hcompile, he] at hlookups
      obtain rfl : e = e' := Except.error.inj hlookups
      refine Or.inr ⟨e, ?_, leaf, hleaf, ?_⟩
      · have hnone : (ix.schema.kind? Schema.keyName).isNone = false := by simpa using hkey
        unfold find
        rw [hnone, hcompile]
        rfl
      · rw [Schema.serve, hl]
        rfl
  | ok query =>
    rcases mapM_cases (ix.schema.lookup E) tree.leaves with ⟨lookups, hok, hto, hfrom⟩ | ⟨_, he, -⟩
    · rw [hcompile, hok] at hlookups
      obtain rfl : query.lookups = lookups := Except.ok.inj hlookups
      rw [ix.find_of_compile hkey hcompile]
      cases hfault : query.lookups.findSome? (Lookup.fault? ix.schema) with
      | none =>
        refine Or.inl ⟨⟨_, rfl⟩, fun leaf hleaf => ?_⟩
        obtain ⟨lookup, hmem, hl⟩ := hto leaf hleaf
        have hnone := List.findSome?_eq_none_iff.1 hfault lookup hmem
        exact ⟨lookup, by rw [Schema.serve_of_lookup hl, hnone]⟩
      | some e =>
        obtain ⟨lookup, hmem, hsome⟩ := List.exists_of_findSome?_eq_some hfault
        obtain ⟨leaf, hleaf, hl⟩ := hfrom lookup hmem
        exact Or.inr ⟨e, rfl, leaf, hleaf, by rw [Schema.serve_of_lookup hl, hsome]⟩
    · rw [hcompile, he] at hlookups
      cases hlookups

end Index

/-! ## The schema of a field set -/

theorem mem_distinctNames {name : String} (names : List String) :
    ∀ seen, name ∈ distinctNames seen names ↔ name ∈ names ∧ name ∉ seen := by
  induction names with
  | nil => intro seen; simp [distinctNames]
  | cons first rest ih =>
    intro seen
    rw [distinctNames]
    split
    · next h =>
      rw [ih, List.mem_cons]
      constructor
      · rintro ⟨hrest, hseen⟩
        exact ⟨Or.inr hrest, hseen⟩
      · rintro ⟨rfl | hrest, hseen⟩
        · exact absurd h hseen
        · exact ⟨hrest, hseen⟩
    · next h =>
      rw [List.mem_cons, ih, List.mem_cons, List.mem_cons]
      constructor
      · rintro (rfl | ⟨hrest, hseen⟩)
        · exact ⟨Or.inl rfl, h⟩
        · exact ⟨Or.inr hrest, fun hs => hseen (Or.inr hs)⟩
      · rintro ⟨rfl | hrest, hseen⟩
        · exact Or.inl rfl
        · by_cases hf : name = first
          · exact Or.inl hf
          · exact Or.inr ⟨hrest, by simp [hf, hseen]⟩

namespace Schema

variable (fields : FieldSet)

/-- The key field keeps its text as one term, without positions. -/
theorem kind?_keyName : (ofFieldSet fields).kind? keyName = some (.text (some ⟨.raw, .basic⟩)) := by
  simp [kind?, ofFieldSet]

/-- Every other field of the set is analyzed, with positions. -/
theorem kind?_of_mem {name : String} (hmem : name ∈ fields.names) (hkey : name ≠ keyName) :
    (ofFieldSet fields).kind? name = some (.text (some ⟨.registered, .positions⟩)) := by
  have hdistinct : name ∈ distinctNames [keyName] fields.names := by
    rw [mem_distinctNames]
    exact ⟨hmem, by simpa using hkey⟩
  have hfirst : (keyName == name) = false := beq_false_of_ne hkey.symm
  rw [kind?, ofFieldSet, List.find?_cons, hfirst]
  simp only [List.find?_map, Function.comp_def]
  cases hfind : (distinctNames [keyName] fields.names).find? (· == name) with
  | none =>
    have hno := List.find?_eq_none.1 hfind name hdistinct
    simp at hno
  | some found =>
    have hfound : found = name := by simpa using List.find?_some hfind
    rw [hfound]
    rfl

/-- Every field of the set is an indexed text field. -/
theorem kind?_text {name : String} (hmem : name ∈ fields.names) :
    ∃ indexing, (ofFieldSet fields).kind? name = some (.text (some indexing)) := by
  by_cases hkey : name = keyName
  · subst hkey
    exact ⟨_, kind?_keyName fields⟩
  · exact ⟨_, kind?_of_mem fields hmem hkey⟩

/-- The fields of the set are text fields, so only the atom decides what a leaf looks for. -/
theorem lookup_ofFieldSet (E : Engine) {name : String} (hmem : name ∈ fields.names) (a : Atom) :
    (ofFieldSet fields).lookup E (name, a) = a.lookup E name := by
  obtain ⟨indexing, hkind⟩ := kind?_text fields hmem
  have hfield : (ofFieldSet fields).textField name = .ok (some indexing) := by
    rw [textField, hkind]
  rw [lookup, hfield]
  rfl

/-- A term can be looked for in every field of the set. -/
theorem fault?_term {name : String} (hmem : name ∈ fields.names) (text : String) :
    (Lookup.term name text).fault? (ofFieldSet fields) = none := by
  obtain ⟨indexing, hkind⟩ := kind?_text fields hmem
  rw [Lookup.fault?, hkind]

/-- A phrase of two or more terms can be looked for in every field of the set but the key field. -/
theorem fault?_phrase {name : String} (hmem : name ∈ fields.names) (terms : List String) :
    (Lookup.phrase name terms).fault? (ofFieldSet fields) =
      if name = keyName then some (.noPositions name) else none := by
  split
  · next hkey =>
    subst hkey
    rw [Lookup.fault?, kind?_keyName]
  · next hkey => rw [Lookup.fault?, kind?_of_mem fields hmem hkey]

end Schema

/-- An atom can be looked for in the field with this name: the engine accepts its pattern, and in
the key field it is no phrase of two or more terms. -/
def Atom.ServedIn (E : Engine) (name : String) : Atom → Prop
  | term _ => True
  | wildcard pattern => E.accepts (wildcardRegex pattern) = true
  | phrase terms => name = Schema.keyName → terms.length < 2

/-- A leaf in a field of the set is served, or its pattern is refused, or it is a phrase in the key
field. -/
theorem Schema.serve_ofFieldSet (E : Engine) (fields : FieldSet) {name : String}
    (hmem : name ∈ fields.names) (a : Atom) :
    (a.ServedIn E name ∧ ∃ lookup, (ofFieldSet fields).serve E (name, a) = .ok lookup) ∨
      ¬ a.ServedIn E name ∧ ∃ e, (ofFieldSet fields).serve E (name, a) = .error e ∧
        ((∃ pattern, a = .wildcard pattern ∧ E.accepts (wildcardRegex pattern) = false ∧
            e = .wildcard pattern) ∨
          name = keyName ∧ e = .noPositions keyName) := by
  have hlookup := lookup_ofFieldSet fields E hmem a
  cases a with
  | term text =>
    have hserve := serve_of_lookup hlookup
    rw [fault?_term fields hmem] at hserve
    exact Or.inl ⟨trivial, _, hserve⟩
  | wildcard pattern =>
    cases haccepted : E.accepts (wildcardRegex pattern) with
    | true =>
      rw [Atom.lookup, if_pos haccepted] at hlookup
      exact Or.inl ⟨haccepted, _, serve_of_lookup hlookup⟩
    | false =>
      rw [Atom.lookup, haccepted] at hlookup
      refine Or.inr ⟨?_, .wildcard pattern, ?_, Or.inl ⟨pattern, rfl, haccepted, rfl⟩⟩
      · rw [Atom.ServedIn, haccepted]
        exact Bool.false_ne_true
      · rw [serve, hlookup]
        rfl
  | phrase terms =>
    match terms, hlookup with
    | [], hlookup => exact Or.inl ⟨fun _ => Nat.zero_lt_two, _, serve_of_lookup hlookup⟩
    | [text], hlookup =>
      have hserve := serve_of_lookup hlookup
      rw [fault?_term fields hmem] at hserve
      exact Or.inl ⟨fun _ => Nat.one_lt_two, _, hserve⟩
    | first :: second :: rest, hlookup =>
      have hserve := serve_of_lookup hlookup
      rw [fault?_phrase fields hmem] at hserve
      by_cases hkey : name = keyName
      · subst hkey
        rw [if_pos rfl] at hserve
        refine Or.inr ⟨fun h => ?_, _, hserve, Or.inr ⟨rfl, rfl⟩⟩
        have hlt : (first :: second :: rest).length < 2 := h rfl
        rw [List.length_cons, List.length_cons] at hlt
        omega
      · rw [if_neg hkey] at hserve
        exact Or.inl ⟨fun h => absurd h hkey, _, hserve⟩

/-! ## Searches -/

namespace Index

/-- A tree over the fields of the set is searched for if all its leaves can be, and if not, then the
error is that of a leaf with a refused pattern, or of one in the key field. -/
theorem find_ofFieldSet (E : Engine) {fields : FieldSet} {ix : Index}
    (hschema : ix.schema = .ofFieldSet fields) {tree : Tree}
    (hnames : ∀ leaf ∈ tree.leaves, leaf.1 ∈ fields.names) :
    ((∃ found, ix.find E tree = .ok found) ∧ ∀ leaf ∈ tree.leaves, leaf.2.ServedIn E leaf.1) ∨
      ∃ leaf ∈ tree.leaves, ¬ leaf.2.ServedIn E leaf.1 ∧
        ((∃ pattern, leaf.2 = .wildcard pattern ∧ E.accepts (wildcardRegex pattern) = false ∧
            ix.find E tree = .error (.wildcard pattern)) ∨
          leaf.1 = Schema.keyName ∧ ix.find E tree = .error (.noPositions Schema.keyName)) := by
  have hkey : (ix.schema.kind? Schema.keyName).isSome = true := by
    rw [hschema, Schema.kind?_keyName]
    rfl
  have hserve : ∀ leaf ∈ tree.leaves, _ := fun leaf hleaf =>
    Schema.serve_ofFieldSet E fields (hnames leaf hleaf) leaf.2
  rcases ix.find_cases E tree hkey with ⟨hfound, hall⟩ | ⟨e, he, leaf, hleaf, herr⟩
  · refine Or.inl ⟨hfound, fun leaf hleaf => ?_⟩
    rcases hserve leaf hleaf with ⟨hserved, -⟩ | ⟨-, e, herr, -⟩
    · exact hserved
    · obtain ⟨lookup, hok⟩ := hall leaf hleaf
      rw [hschema, herr] at hok
      cases hok
  · rw [hschema] at herr
    rcases hserve leaf hleaf with ⟨-, lookup, hok⟩ | ⟨hserved, e', herr', hwhy⟩
    · rw [hok] at herr
      cases herr
    · obtain rfl : e' = e := by
        rw [herr'] at herr
        exact Except.error.inj herr
      refine Or.inr ⟨leaf, hleaf, hserved, ?_⟩
      rcases hwhy with ⟨pattern, hatom, hrefused, rfl⟩ | ⟨hname, rfl⟩
      · exact Or.inl ⟨pattern, hatom, hrefused, he⟩
      · exact Or.inr ⟨hname, he⟩

theorem search_of_tree (E : Engine) (ix : Index) {q : CompiledQuery} {tree : Tree} {limit : Nat}
    (htree : q.tree? = some tree) (hlimit : limit ≠ 0) :
    ix.search E q limit = (ix.find E tree).map fun found =>
      ⟨(best limit found).map Found.hit, q.highlightTerms⟩ := by
  unfold search
  rw [htree]
  simp only [if_neg hlimit]
  cases ix.find E tree <;> rfl

/-- A query without a tree, or a limit of zero, finds nothing. -/
theorem search_of_nothing (E : Engine) (ix : Index) {q : CompiledQuery} {limit : Nat}
    (h : limit = 0 ∨ q.tree? = none) : ix.search E q limit = .ok ⟨[], q.highlightTerms⟩ := by
  unfold search
  cases htree : q.tree? with
  | none => rfl
  | some tree =>
    have hlimit : limit = 0 := by
      rcases h with h | h
      · exact h
      · rw [htree] at h
        cases h
    simp only [if_pos hlimit]
    rfl

end Index

/-- A compiled query has a wildcard among its leaves only if one is among its atoms. -/
theorem Compiler.wildcard_mem_parts (c : Compiler) (raw : String) {tree : Tree}
    (htree : (c.compile raw).tree? = some tree) {leaf : String × Atom} (hleaf : leaf ∈ tree.leaves)
    {pattern : String} (hatom : leaf.2 = .wildcard pattern) :
    .atom (.wildcard pattern) ∈ (c.compile raw).parts := by
  rcases (c.leaf_compile raw htree hleaf).2 with hpart | hphrase
  · rwa [hatom] at hpart
  · rw [hatom] at hphrase
    cases hphrase

/-- In an index over the schema of its fields, a query can be searched for unless the engine refuses
one of its patterns, or its fields name the key field and a phrase of two or more terms is looked
for in it. -/
theorem search_ofFieldSet (E : Engine) (c : Compiler) (ix : Index)
    (hschema : ix.schema = .ofFieldSet c.fields)
    (raw : String) (limit : Nat) :
    ((∃ results, ix.search E (c.compile raw) limit = .ok results) ↔
      limit = 0 ∨ ∀ tree ∈ (c.compile raw).tree?, ∀ leaf ∈ tree.leaves, leaf.2.ServedIn E leaf.1) ∧
    ((∃ results, ix.search E (c.compile raw) limit = .ok results) ∨
      (∃ pattern, .atom (.wildcard pattern) ∈ (c.compile raw).parts ∧
        E.accepts (wildcardRegex pattern) = false ∧
        ix.search E (c.compile raw) limit = .error (.wildcard pattern)) ∨
      Schema.keyName ∈ c.fields.names ∧
        ix.search E (c.compile raw) limit = .error (.noPositions Schema.keyName)) := by
  by_cases hnothing : limit = 0 ∨ (c.compile raw).tree? = none
  · have hok := ix.search_of_nothing E hnothing
    refine ⟨⟨fun _ => ?_, fun _ => ⟨_, hok⟩⟩, Or.inl ⟨_, hok⟩⟩
    rcases hnothing with h | h
    · exact Or.inl h
    · right
      rw [h]
      simp
  · obtain ⟨hlimit, htree⟩ := not_or.1 hnothing
    obtain ⟨tree, htree⟩ := Option.ne_none_iff_exists'.1 htree
    have hsearch := ix.search_of_tree E htree hlimit
    have hnames : ∀ leaf ∈ tree.leaves, leaf.1 ∈ c.fields.names := fun leaf hleaf =>
      (c.leaf_compile raw htree hleaf).1
    rcases Index.find_ofFieldSet E hschema hnames with
      ⟨⟨found, hfound⟩, hserved⟩ | ⟨leaf, hleaf, hserved, hwhy⟩
    · rw [hfound] at hsearch
      refine ⟨⟨fun _ => Or.inr fun t ht => ?_, fun _ => ⟨_, hsearch⟩⟩, Or.inl ⟨_, hsearch⟩⟩
      obtain rfl : tree = t := Option.some.inj (htree.symm.trans ht)
      exact hserved
    · -- The error of the leaf is that of the search, so the search has no results.
      have hfails : ∀ e, ix.find E tree = .error e →
          ix.search E (c.compile raw) limit = .error e := by
        intro e he
        rw [hsearch, he]
        rfl
      have hnone : ¬ ∃ results, ix.search E (c.compile raw) limit = .ok results := by
        rintro ⟨results, hok⟩
        rcases hwhy with ⟨pattern, -, -, he⟩ | ⟨-, he⟩
        · rw [hfails _ he] at hok
          cases hok
        · rw [hfails _ he] at hok
          cases hok
      refine ⟨⟨fun h => absurd h hnone, ?_⟩, Or.inr ?_⟩
      · rintro (h | h)
        · exact absurd h hlimit
        · exact absurd (h tree htree leaf hleaf) hserved
      · rcases hwhy with ⟨pattern, hatom, hrefused, he⟩ | ⟨hname, he⟩
        · exact Or.inl ⟨pattern, c.wildcard_mem_parts raw htree hleaf hatom, hrefused,
            hfails _ he⟩
        · exact Or.inr ⟨hname ▸ hnames leaf hleaf, hfails _ he⟩

/-! ### The key field among the fields -/

/-- The field set with the key field alone. -/
def keyFieldSet : FieldSet :=
  ⟨[⟨Schema.keyName, .ofNat 1⟩], by simp, by simp [Field.Proper]; decide⟩

/-- A compiler that takes words as they are and searches the key field. -/
def keyCompiler : Compiler := ⟨fun word => [word], keyFieldSet, .default⟩

/-- An index over the schema of the key field alone, without documents. -/
def keyIndex : Index := .empty (.ofFieldSet keyFieldSet) (Language.english.pipeline .builtIn true)

theorem search_ofFieldSet_java :
    keyIndex.schema = .ofFieldSet keyCompiler.fields ∧
      ∃ results, keyIndex.search .builtIn (keyCompiler.compile "java") 10 = .ok results := by
  refine ⟨rfl, (search_ofFieldSet .builtIn keyCompiler keyIndex rfl "java" 10).1.2 (Or.inr ?_)⟩
  intro tree htree leaf hleaf
  have hatom := (keyCompiler.leaf_compile "java" htree hleaf).2
  have hparts : (keyCompiler.compile "java").parts = [.atom (.term "java")] := by decide +kernel
  rw [hparts] at hatom
  rcases hatom with h | h
  · obtain ⟨name, a⟩ := leaf
    obtain rfl : a = .term "java" := by simpa using h
    trivial
  · rw [h]
    exact fun _ => by decide

/-- A quoted phrase of two words cannot be looked for in the key field, though the schema has it. -/
theorem not_search_keyField :
    ¬ ∀ (c : Compiler) (ix : Index), ix.schema = .ofFieldSet c.fields →
      ∀ (raw : String) (limit : Nat),
        (∃ results, ix.search .builtIn (c.compile raw) limit = .ok results) ∨
          ∃ pattern, ix.search .builtIn (c.compile raw) limit = .error (.wildcard pattern) := by
  intro h
  have hsearch : keyIndex.search .builtIn (keyCompiler.compile "\"java editor\"") 10 =
      .error (.noPositions Schema.keyName) := by decide +kernel
  rcases h keyCompiler keyIndex rfl "\"java editor\"" 10 with ⟨results, hok⟩ | ⟨pattern, hw⟩
  · rw [hsearch] at hok
    cases hok
  · rw [hsearch] at hw
    cases hw

end HelpQuery
