import HelpQuery.Proofs.Engine
import HelpQuery.Proofs.Schemas

/-!
# Engine counterparts of trees

A tree is compiled leaf by leaf, from left to right.  The engine query has its groups, clauses and
requirements, with one weighted leaf for each of its leaves, and there is none just if a leaf has a
fault; then the error is that of the first such leaf:

    (∃ query, tree.compile E s = .ok query) ↔ ∀ leaf ∈ tree.leaves, s.Accepts E leaf
    tree.compile E s = .error e ↔
      ∃ before leaf after, tree.leaves = before ++ leaf :: after ∧ … ∧ s.Fault E leaf e
    tree.compile E s = .ok query → tree.Counterpart query
-/

namespace HelpQuery

/-! ## Faults of leaves -/

namespace Schema

/-- A leaf is in a text field of the schema, and the engine accepts its pattern if it is a
wildcard. -/
structure Accepts (s : Schema) (E : Engine) (leaf : String × Atom) : Prop where
  textField : ∃ indexing?, s.kind? leaf.1 = some (.text indexing?)
  pattern : ∀ pattern, leaf.2 = .wildcard pattern → E.accepts (wildcardRegex pattern) = true

/-- What is wrong with a leaf: its field is unknown or holds no text, or else the engine refuses its
pattern. -/
inductive Fault (s : Schema) (E : Engine) : String × Atom → EngineError → Prop where
  | unknownField {name : String} {a : Atom} :
      s.kind? name = none → Fault s E (name, a) (.unknownField name)
  | notTextField {name : String} {a : Atom} :
      s.kind? name = some .other → Fault s E (name, a) (.notTextField name)
  | wildcard {name pattern : String} {indexing? : Option TextIndexing} :
      s.kind? name = some (.text indexing?) →
      E.accepts (wildcardRegex pattern) = false →
      Fault s E (name, .wildcard pattern) (.wildcard pattern)

/-- A leaf that is accepted is looked up, and one that is not has a fault. -/
theorem lookup_cases (s : Schema) (E : Engine) (leaf : String × Atom) :
    (s.Accepts E leaf ∧ ∃ lookup, s.lookup E leaf = .ok lookup) ∨
      ¬ s.Accepts E leaf ∧ ∃ e, s.Fault E leaf e ∧ s.lookup E leaf = .error e := by
  obtain ⟨name, a⟩ := leaf
  have hfield : ∀ e, s.textField name = .error e → s.lookup E (name, a) = .error e := by
    intro e he
    rw [lookup, he]
    rfl
  cases hkind : s.kind? name with
  | none =>
    refine Or.inr ⟨fun h => ?_, _, .unknownField hkind, hfield _ (by rw [textField, hkind])⟩
    obtain ⟨_, htext⟩ := h.textField
    cases hkind.symm.trans htext
  | some kind =>
    cases kind with
    | other =>
      refine Or.inr ⟨fun h => ?_, _, .notTextField hkind, hfield _ (by rw [textField, hkind])⟩
      obtain ⟨_, htext⟩ := h.textField
      cases hkind.symm.trans htext
    | text indexing? =>
      have hatom : s.lookup E (name, a) = a.lookup E name := by
        rw [lookup, textField, hkind]
        rfl
      rw [hatom]
      rcases a.lookup_cases E name with ⟨lookup, hok⟩ | ⟨pattern, rfl, hrefused, herror⟩
      · refine Or.inl ⟨⟨⟨indexing?, hkind⟩, fun pattern hwild => ?_⟩, lookup, hok⟩
        -- A refused pattern is not looked up.
        by_contra hrefused
        obtain rfl : a = .wildcard pattern := hwild
        rw [Atom.lookup, if_neg hrefused] at hok
        cases hok
      · refine Or.inr ⟨fun h => ?_, _, .wildcard hkind hrefused, herror⟩
        have haccepted := h.pattern pattern rfl
        rw [hrefused] at haccepted
        cases haccepted

theorem accepts_iff (s : Schema) (E : Engine) (leaf : String × Atom) :
    s.Accepts E leaf ↔ ∀ e, s.lookup E leaf ≠ .error e := by
  rcases s.lookup_cases E leaf with ⟨haccepts, lookup, hok⟩ | ⟨hrefuses, e, -, herror⟩
  · refine ⟨fun _ e he => ?_, fun _ => haccepts⟩
    cases hok.symm.trans he
  · exact ⟨fun h => absurd h hrefuses, fun h => absurd herror (h e)⟩

/-- A leaf has one fault at most. -/
theorem Fault.unique {s : Schema} {E : Engine} {leaf : String × Atom} {e e' : EngineError}
    (h : s.Fault E leaf e) (h' : s.Fault E leaf e') : e = e' := by
  cases h with
  | unknownField hkind =>
    cases h' with
    | unknownField => rfl
    | notTextField hkind' => cases hkind.symm.trans hkind'
    | wildcard hkind' => cases hkind.symm.trans hkind'
  | notTextField hkind =>
    cases h' with
    | unknownField hkind' => cases hkind.symm.trans hkind'
    | notTextField => rfl
    | wildcard hkind' => cases hkind.symm.trans hkind'
  | wildcard hkind =>
    cases h' with
    | unknownField hkind' => cases hkind.symm.trans hkind'
    | notTextField hkind' => cases hkind.symm.trans hkind'
    | wildcard => rfl

theorem fault_iff (s : Schema) (E : Engine) (leaf : String × Atom) (e : EngineError) :
    s.Fault E leaf e ↔ s.lookup E leaf = .error e := by
  constructor
  · intro h
    rcases s.lookup_cases E leaf with ⟨haccepts, -⟩ | ⟨-, e', hfault, herror⟩
    · exfalso
      obtain ⟨_, htext⟩ := haccepts.textField
      cases h with
      | unknownField hkind => cases hkind.symm.trans htext
      | notTextField hkind => cases hkind.symm.trans htext
      | wildcard _ hrefused =>
        have haccepted := haccepts.pattern _ rfl
        rw [hrefused] at haccepted
        cases haccepted
    · rw [h.unique hfault]
      exact herror
  · intro h
    rcases s.lookup_cases E leaf with ⟨-, lookup, hok⟩ | ⟨-, e', hfault, herror⟩
    · cases hok.symm.trans h
    · obtain rfl : e' = e := Except.error.inj (herror.symm.trans h)
      exact hfault

end Schema

/-! ## Counterparts -/

/-- What the engine looks for on behalf of an atom in a field: a phrase of one term is that term,
and one of no terms is nothing. -/
inductive Atom.SoughtAs (field : String) : Atom → Lookup → Prop where
  | term (text : String) : SoughtAs field (.term text) (.term field text)
  | wildcard (pattern : String) :
      SoughtAs field (.wildcard pattern) (.regex field (wildcardRegex pattern))
  | nothing : SoughtAs field (.phrase []) .nothing
  | single (text : String) : SoughtAs field (.phrase [text]) (.term field text)
  | phrase {terms : List String} : 2 ≤ terms.length →
      SoughtAs field (.phrase terms) (.phrase field terms)

theorem Atom.soughtAs_of_lookup {E : Engine} {field : String} {a : Atom} {lookup : Lookup}
    (h : a.lookup E field = .ok lookup) : a.SoughtAs field lookup := by
  cases a with
  | term text =>
    cases h
    exact .term text
  | wildcard pattern =>
    rw [Atom.lookup] at h
    split at h
    · cases h
      exact .wildcard pattern
    · cases h
  | phrase terms =>
    rcases terms with _ | ⟨text, _ | ⟨second, rest⟩⟩
    · cases h
      exact .nothing
    · cases h
      exact .single text
    · cases h
      exact .phrase (by simp)

namespace Tree

mutual

/-- An engine query has the groups of a tree, and for each of its leaves one with the same weight
that looks for the leaf's atom in the leaf's field. -/
inductive Counterpart : Tree → EngineQuery Single → Prop where
  | leaf {field : String} {a : Atom} {lookup : Lookup} (boost : Single) :
      a.SoughtAs field lookup → Counterpart (.leaf field a boost) (.leaf lookup boost)
  | boolean {cs : List (Clause Tree)} {qs : List (Clause (EngineQuery Single))} :
      ClauseCounterparts cs qs → Counterpart (.boolean cs) (.boolean qs)

/-- The clauses are counterparts one by one, each with its requirement. -/
inductive ClauseCounterparts :
    List (Clause Tree) → List (Clause (EngineQuery Single)) → Prop where
  | nil : ClauseCounterparts [] []
  | cons {tree : Tree} {query : EngineQuery Single} {cs : List (Clause Tree)}
      {qs : List (Clause (EngineQuery Single))} (requirement : Requirement) :
      Counterpart tree query → ClauseCounterparts cs qs →
      ClauseCounterparts (⟨requirement, tree⟩ :: cs) (⟨requirement, query⟩ :: qs)

end

mutual

theorem counterpart_of_compile {E : Engine} {s : Schema} {tree : Tree} {query : EngineQuery Single}
    (h : tree.compile E s = .ok query) : tree.Counterpart query := by
  match tree with
  | .leaf field a boost =>
    rw [compile] at h
    obtain ⟨_, -, h⟩ := bind_eq_ok_iff.1 h
    obtain ⟨lookup, hlookup, h⟩ := bind_eq_ok_iff.1 h
    obtain rfl := pure_eq_ok_iff.1 h
    exact .leaf boost (Atom.soughtAs_of_lookup hlookup)
  | .boolean cs =>
    rw [compile] at h
    obtain ⟨qs, hqs, h⟩ := bind_eq_ok_iff.1 h
    obtain rfl := pure_eq_ok_iff.1 h
    exact .boolean (clauseCounterparts_of_compileClauses hqs)

theorem clauseCounterparts_of_compileClauses {E : Engine} {s : Schema} {cs : List (Clause Tree)}
    {qs : List (Clause (EngineQuery Single))} (h : compileClauses E s cs = .ok qs) :
    ClauseCounterparts cs qs := by
  match cs with
  | [] =>
    rw [compileClauses] at h
    obtain rfl := pure_eq_ok_iff.1 h
    exact .nil
  | ⟨requirement, tree⟩ :: rest =>
    rw [compileClauses] at h
    obtain ⟨query, hquery, h⟩ := bind_eq_ok_iff.1 h
    obtain ⟨qs, hqs, h⟩ := bind_eq_ok_iff.1 h
    obtain rfl := pure_eq_ok_iff.1 h
    exact .cons requirement (counterpart_of_compile hquery)
      (clauseCounterparts_of_compileClauses hqs)

end

/-! ## Errors of trees -/

/-- Compiling a tree fails as looking up its leaves does. -/
theorem compile_eq_error_iff_mapM (E : Engine) (s : Schema) (tree : Tree) (e : EngineError) :
    tree.compile E s = .error e ↔ tree.leaves.mapM (s.lookup E) = .error e := by
  rw [← tree.map_lookups_compile E s]
  cases tree.compile E s with
  | error e' =>
    show _ ↔ Except.error e' = .error e
    rw [Except.error.injEq, Except.error.injEq]
  | ok query => exact ⟨nofun, nofun⟩

/-- The error of a tree is that of its first leaf with a fault. -/
theorem compile_eq_error_iff (E : Engine) (s : Schema) (tree : Tree) (e : EngineError) :
    tree.compile E s = .error e ↔
      ∃ before leaf after, tree.leaves = before ++ leaf :: after ∧
        (∀ l ∈ before, s.Accepts E l) ∧ s.Fault E leaf e := by
  rw [compile_eq_error_iff_mapM, mapM_eq_error_iff]
  simp only [Schema.accepts_iff, Schema.fault_iff]

/-- A tree is compiled if all its leaves are accepted. -/
theorem exists_compile_iff (E : Engine) (s : Schema) (tree : Tree) :
    (∃ query, tree.compile E s = .ok query) ↔ ∀ leaf ∈ tree.leaves, s.Accepts E leaf := by
  constructor
  · rintro ⟨query, hquery⟩ leaf hleaf
    rw [Schema.accepts_iff]
    intro e he
    rcases mapM_cases (s.lookup E) tree.leaves with ⟨_, -, hto, -⟩ | ⟨e', he', -⟩
    · obtain ⟨lookup, -, hok⟩ := hto leaf hleaf
      cases hok.symm.trans he
    · rw [← compile_eq_error_iff_mapM, hquery] at he'
      cases he'
  · intro hall
    rcases tree.compile_cases E s with hok | ⟨e, -, leaf, hleaf, herror⟩
    · exact hok
    · exact absurd herror ((s.accepts_iff E leaf).1 (hall leaf hleaf) e)

/-! ## Compiled trees -/

theorem matches_phrase_nil (d : Document) (field : String) (boost : Single) :
    ¬ (leaf field (.phrase []) boost).Matches d := by
  rw [matches_leaf]
  rintro ⟨hne, -⟩
  exact hne rfl

theorem matches_phrase_single (d : Document) (field text : String) (boost : Single) :
    (leaf field (.phrase [text]) boost).Matches d ↔ (leaf field (.term text) boost).Matches d := by
  simp [Atom.FoundIn, List.singleton_infix_iff]

/-- A tree is compiled just if each of its leaves is in a text field and has no refused pattern, and
fails with the fault of its first other leaf.  The engine query is its counterpart and holds of the
documents it matches; a phrase of no terms matches nothing, and one of a single term as that term. -/
theorem compile_faithful (E : Engine) (s : Schema) (tree : Tree) :
    ((∃ query, tree.compile E s = .ok query) ↔ ∀ leaf ∈ tree.leaves, s.Accepts E leaf) ∧
    (∀ e, tree.compile E s = .error e ↔
      ∃ before leaf after, tree.leaves = before ++ leaf :: after ∧
        (∀ l ∈ before, s.Accepts E l) ∧ s.Fault E leaf e) ∧
    (∀ query, tree.compile E s = .ok query →
      tree.Counterpart query ∧
      ∀ d, query.holds d = true ↔ tree.Matches fun field => (d field).passages) ∧
    ∀ d field boost, ¬ (leaf field (.phrase []) boost).Matches d ∧
      ∀ text, (leaf field (.phrase [text]) boost).Matches d ↔
        (leaf field (.term text) boost).Matches d := by
  refine ⟨exists_compile_iff E s tree, compile_eq_error_iff E s tree, fun query hquery => ?_,
    fun d field boost => ?_⟩
  · exact ⟨counterpart_of_compile hquery, fun d => holds_compile d hquery⟩
  · exact ⟨matches_phrase_nil d field boost, fun text => matches_phrase_single d field text boost⟩

/-- An empty group, an empty phrase and a phrase of one term, some groups deep. -/
def nested : Tree :=
  .boolean
    [⟨.required, .any [.leaf "title" (.term "java") (.ofNat 5), .boolean []]⟩,
     ⟨.prohibited, .boolean
        [⟨.optional, .leaf "contents" (.phrase []) (.ofNat 1)⟩,
         ⟨.required, .leaf "contents" (.phrase ["swing"]) (.ofNat 1)⟩]⟩]

theorem compile_faithful_nested :
    ∃ query, nested.compile .builtIn (.ofFieldSet titleAndContents) = .ok query ∧
      nested.Counterpart query ∧
      ∀ d, query.holds d = true ↔ nested.Matches fun field => (d field).passages := by
  have haccepts : ∀ leaf ∈ nested.leaves,
      (Schema.ofFieldSet titleAndContents).Accepts .builtIn leaf := by
    have hleaves : nested.leaves =
        [("title", .term "java"), ("contents", .phrase []), ("contents", .phrase ["swing"])] := rfl
    simp only [hleaves, List.forall_mem_cons]
    exact ⟨⟨⟨_, rfl⟩, nofun⟩, ⟨⟨_, rfl⟩, nofun⟩, ⟨⟨_, rfl⟩, nofun⟩, by simp⟩
  obtain ⟨hok, -, hfaithful, -⟩ := compile_faithful .builtIn (.ofFieldSet titleAndContents) nested
  obtain ⟨query, hquery⟩ := hok.2 haccepts
  exact ⟨query, hquery, hfaithful query hquery⟩

end Tree

end HelpQuery
