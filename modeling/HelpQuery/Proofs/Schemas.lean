import HelpQuery.Proofs.Serving

/-!
# The schema of a field set fits its queries

The schema of a field set has the key field, and behind it every other name of the set once, where
it stood first.  The leaves of a compiled query are in fields of the set, so looking one up in that
schema fails at most at its pattern:

    (ofFieldSet fields).fields.map name = keyName :: distinctNames [keyName] fields.names
    (ofFieldSet fields).lookup E (name, a) = a.lookup E name       for every name of the set
-/

namespace HelpQuery

/-! ## Names at their first places -/

/-- Distinct names stand in the order of their first places. -/
theorem pairwise_distinctNames (names : List String) :
    ∀ seen, (distinctNames seen names).Pairwise fun a b => names.idxOf a < names.idxOf b := by
  induction names with
  | nil =>
    intro seen
    exact .nil
  | cons first rest ih =>
    -- Places move by one behind a name that is not itself among the others.
    have hshift : ∀ seen, first ∈ seen → (distinctNames seen rest).Pairwise
        fun a b => (first :: rest).idxOf a < (first :: rest).idxOf b := by
      intro seen hfirst
      refine (ih seen).imp_of_mem fun {a b} ha hb hlt => ?_
      have hne : ∀ name ∈ distinctNames seen rest, first ≠ name := by
        rintro name hname rfl
        exact ((mem_distinctNames rest seen).1 hname).2 hfirst
      rw [List.idxOf_cons_ne _ (hne a ha), List.idxOf_cons_ne _ (hne b hb)]
      exact Nat.succ_lt_succ hlt
    intro seen
    rw [distinctNames]
    split
    · next h => exact hshift seen h
    · refine List.pairwise_cons.2 ⟨fun b hb => ?_, hshift _ List.mem_cons_self⟩
      have hne : first ≠ b := by
        rintro rfl
        exact ((mem_distinctNames rest _).1 hb).2 List.mem_cons_self
      rw [List.idxOf_cons_self, List.idxOf_cons_ne _ hne]
      exact Nat.succ_pos _

namespace Schema

variable (fields : FieldSet)

theorem map_name_ofFieldSet :
    (ofFieldSet fields).fields.map SchemaField.name =
      keyName :: distinctNames [keyName] fields.names := by
  simp [ofFieldSet, Function.comp_def]

/-- Every name of the set is that of a text field. -/
theorem textField_ofFieldSet {name : String} (hmem : name ∈ fields.names) :
    ∃ indexing, (ofFieldSet fields).textField name = .ok (some indexing) := by
  obtain ⟨indexing, hkind⟩ := kind?_text fields hmem
  exact ⟨indexing, by rw [textField, hkind]⟩

end Schema

/-! ## Compiling trees -/

/-- What is looked for in a field for an atom, or the pattern of it that is refused. -/
theorem Atom.lookup_cases (E : Engine) (field : String) (a : Atom) :
    (∃ lookup, a.lookup E field = .ok lookup) ∨
      ∃ pattern, a = .wildcard pattern ∧ E.accepts (wildcardRegex pattern) = false ∧
        a.lookup E field = .error (.wildcard pattern) := by
  cases a with
  | term text => exact Or.inl ⟨_, rfl⟩
  | wildcard pattern =>
    cases haccepted : E.accepts (wildcardRegex pattern) with
    | true => exact Or.inl ⟨_, by rw [lookup, if_pos haccepted]⟩
    | false => exact Or.inr ⟨pattern, rfl, haccepted, by rw [lookup, haccepted]; rfl⟩
  | phrase terms =>
    rcases terms with _ | ⟨_, _ | ⟨_, _⟩⟩
    · exact Or.inl ⟨_, rfl⟩
    · exact Or.inl ⟨_, rfl⟩
    · exact Or.inl ⟨_, rfl⟩

namespace Tree

/-- A tree is compiled if all its leaves can be looked up, and ends with the error of a leaf if
not. -/
theorem compile_cases (E : Engine) (s : Schema) (tree : Tree) :
    (∃ query, tree.compile E s = .ok query) ∨
      ∃ e, tree.compile E s = .error e ∧ ∃ leaf ∈ tree.leaves, s.lookup E leaf = .error e := by
  have hlookups := tree.map_lookups_compile E s
  cases hcompile : tree.compile E s with
  | ok query => exact Or.inl ⟨query, rfl⟩
  | error e =>
    rw [hcompile] at hlookups
    rcases mapM_cases (s.lookup E) tree.leaves with ⟨_, hok, -⟩ | ⟨e', he, leaf, hleaf, hl⟩
    · rw [hok] at hlookups
      cases hlookups
    · rw [he] at hlookups
      obtain rfl : e = e' := Except.error.inj hlookups
      exact Or.inr ⟨e, rfl, leaf, hleaf, hl⟩

/-- A tree over the fields of the set is compiled over their schema, unless one of its patterns is
refused. -/
theorem compile_ofFieldSet (E : Engine) {fields : FieldSet} {tree : Tree}
    (hnames : ∀ leaf ∈ tree.leaves, leaf.1 ∈ fields.names) :
    (∃ query, tree.compile E (.ofFieldSet fields) = .ok query) ∨
      ∃ leaf ∈ tree.leaves, ∃ pattern, leaf.2 = .wildcard pattern ∧
        E.accepts (wildcardRegex pattern) = false ∧
        tree.compile E (.ofFieldSet fields) = .error (.wildcard pattern) := by
  rcases tree.compile_cases E (.ofFieldSet fields) with hok | ⟨e, he, leaf, hleaf, herr⟩
  · exact Or.inl hok
  · obtain ⟨name, a⟩ := leaf
    rw [Schema.lookup_ofFieldSet fields E (hnames _ hleaf)] at herr
    rcases a.lookup_cases E name with ⟨lookup, hok⟩ | ⟨pattern, rfl, hrefused, hpattern⟩
    · rw [hok] at herr
      cases herr
    · rw [hpattern] at herr
      obtain rfl := Except.error.inj herr
      exact Or.inr ⟨_, hleaf, pattern, rfl, hrefused, he⟩

end Tree

/-- The schema of a compiler's fields has the key first and then each other name once, at its first
place; it resolves every name, and compiling a query over it fails only where the engine refuses one
of the query's patterns. -/
theorem schema_ofFieldSet_fits (E : Engine) (c : Compiler) :
    (∃ others,
      (Schema.ofFieldSet c.fields).fields.map SchemaField.name = Schema.keyName :: others ∧
        (∀ name, name ∈ others ↔ name ∈ c.fields.names ∧ name ≠ Schema.keyName) ∧
        others.Pairwise fun a b => c.fields.names.idxOf a < c.fields.names.idxOf b) ∧
    (∀ name ∈ c.fields.names,
      ∃ indexing, (Schema.ofFieldSet c.fields).textField name = .ok (some indexing)) ∧
    ∀ raw, ∀ tree ∈ (c.compile raw).tree?,
      (∃ query, tree.compile E (.ofFieldSet c.fields) = .ok query) ∨
        ∃ pattern, .atom (.wildcard pattern) ∈ (c.compile raw).parts ∧
          E.accepts (wildcardRegex pattern) = false ∧
          tree.compile E (.ofFieldSet c.fields) = .error (.wildcard pattern) := by
  refine ⟨⟨_, Schema.map_name_ofFieldSet c.fields, fun name => ?_, pairwise_distinctNames _ _⟩,
    fun name hmem => Schema.textField_ofFieldSet c.fields hmem, fun raw tree htree => ?_⟩
  · rw [mem_distinctNames, List.mem_singleton]
  · have hnames : ∀ leaf ∈ tree.leaves, leaf.1 ∈ c.fields.names := fun leaf hleaf =>
      (c.leaf_compile raw htree hleaf).1
    rcases Tree.compile_ofFieldSet E hnames with hok | ⟨leaf, hleaf, pattern, hatom, hrefused, he⟩
    · exact Or.inl hok
    · exact Or.inr ⟨pattern, c.wildcard_mem_parts raw htree hleaf hatom, hrefused, he⟩

/-- A field set that names a field twice and the key field among others. -/
def repeatedFieldSet : FieldSet :=
  ⟨["title", Schema.keyName, "title", "contents"].map (⟨·, .ofNat 1⟩), by simp,
    by simp [Field.Proper]; decide⟩

theorem schema_ofFieldSet_fits_repeated :
    "title" ∈ repeatedFieldSet.names ∧
      (∃ indexing,
        (Schema.ofFieldSet repeatedFieldSet).textField "title" = .ok (some indexing)) ∧
      ∃ tree, (Compiler.compile ⟨fun word => [word], repeatedFieldSet, .default⟩ "java").tree? =
          some tree ∧
        ∃ query, tree.compile .builtIn (.ofFieldSet repeatedFieldSet) = .ok query := by
  let c : Compiler := ⟨fun word => [word], repeatedFieldSet, .default⟩
  have hmem : "title" ∈ c.fields.names := by decide
  have hsome : (c.compile "java").tree?.isSome = true := by decide +kernel
  have hparts : (c.compile "java").parts = [.atom (.term "java")] := by decide +kernel
  obtain ⟨tree, htree⟩ := Option.isSome_iff_exists.1 hsome
  obtain ⟨-, hnames, hcompile⟩ := schema_ofFieldSet_fits .builtIn c
  refine ⟨hmem, hnames "title" hmem, tree, htree, ?_⟩
  rcases hcompile "java" tree htree with hok | ⟨pattern, hpart, -⟩
  · exact hok
  · rw [hparts] at hpart
    simp at hpart

end HelpQuery
