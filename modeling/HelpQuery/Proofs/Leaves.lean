import HelpQuery.Proofs.Ranking

/-!
# Leaves of trees

A tree is a leaf or a group of trees, so what groups take over from their clauses holds of all
trees.  The leaves of a compiled query stand for the atoms of its parts, each in a field of the
set, and for the phrase of all its terms.
-/

namespace HelpQuery

namespace Tree

/-! ## Induction over trees -/

mutual

/-- A tree is a leaf, or a group of queries of which the property may be assumed. -/
@[elab_as_elim]
theorem induction_clauses {motive : Tree → Prop}
    (leaf : ∀ field a boost, motive (.leaf field a boost))
    (boolean : ∀ cs, (∀ c ∈ cs, motive c.query) → motive (.boolean cs)) (tree : Tree) :
    motive tree := by
  match tree with
  | .leaf field a boost => exact leaf field a boost
  | .boolean cs => exact boolean cs (forall_clauses leaf boolean cs)

theorem forall_clauses {motive : Tree → Prop}
    (leaf : ∀ field a boost, motive (.leaf field a boost))
    (boolean : ∀ cs, (∀ c ∈ cs, motive c.query) → motive (.boolean cs)) (cs : List (Clause Tree)) :
    ∀ c ∈ cs, motive c.query := by
  match cs with
  | [] => simp
  | ⟨_, query⟩ :: rest =>
    exact List.forall_mem_cons.2
      ⟨induction_clauses leaf boolean query, forall_clauses leaf boolean rest⟩

end

/-! ## Leaves -/

mutual

/-- The leaves of a tree, each the name of a field and what is looked for in it. -/
def leaves : Tree → List (String × Atom)
  | leaf field atom _ => [(field, atom)]
  | boolean cs => clauseLeaves cs

/-- The leaves of the queries of clauses. -/
def clauseLeaves : List (Clause Tree) → List (String × Atom)
  | [] => []
  | ⟨_, query⟩ :: rest => query.leaves ++ clauseLeaves rest

end

theorem mem_clauseLeaves (cs : List (Clause Tree)) (leaf : String × Atom) :
    leaf ∈ clauseLeaves cs ↔ ∃ c ∈ cs, leaf ∈ c.query.leaves := by
  induction cs with
  | nil => simp [clauseLeaves]
  | cons c cs ih => simp [clauseLeaves, ih]

theorem mem_leaves_any (trees : List Tree) (leaf : String × Atom) :
    leaf ∈ (any trees).leaves ↔ ∃ tree ∈ trees, leaf ∈ tree.leaves := by
  rw [any, leaves, mem_clauseLeaves]
  constructor
  · rintro ⟨c, hc, hleaf⟩
    obtain ⟨tree, htree, rfl⟩ := List.mem_map.1 hc
    exact ⟨tree, htree, hleaf⟩
  · rintro ⟨tree, htree, hleaf⟩
    exact ⟨_, List.mem_map_of_mem htree, hleaf⟩

end Tree

/-! ### Leaves of compiled queries -/

/-- An atom of a query is looked for in its fields alone. -/
theorem FieldSet.mem_leaves_query (fields : FieldSet) (a : Atom) {leaf : String × Atom}
    (h : leaf ∈ (fields.query a).leaves) : leaf.1 ∈ fields.names ∧ leaf.2 = a := by
  have hone : ∀ f ∈ fields.toList, leaf ∈ (Tree.leaf f.name a f.boost).leaves →
      leaf.1 ∈ fields.names ∧ leaf.2 = a := by
    intro f hf hleaf
    obtain rfl := List.mem_singleton.1 hleaf
    exact ⟨List.mem_map_of_mem hf, rfl⟩
  unfold query at h
  split at h
  · next tree htree =>
    obtain ⟨f, hf, rfl⟩ := List.map_eq_singleton_iff.1 htree
    exact hone f (by simp [hf]) h
  · obtain ⟨tree, htree, hleaf⟩ := (Tree.mem_leaves_any _ leaf).1 h
    obtain ⟨f, hf, rfl⟩ := List.mem_map.1 htree
    exact hone f hf hleaf

theorem atom_mem_of_mem_signedAtoms {parts : List Part} {s : SignedAtom} :
    ∀ {negated : Bool}, s ∈ signedAtoms negated parts → .atom s.atom ∈ parts := by
  induction parts with
  | nil =>
    intro negated h
    cases h
  | cons x parts ih =>
    intro negated h
    cases x with
    | atom a =>
      rcases List.mem_cons.1 h with rfl | h
      · exact List.mem_cons_self
      · exact List.mem_cons_of_mem _ (ih h)
    | operator op =>
      cases op with
      | and => exact List.mem_cons_of_mem _ (ih h)
      | or => exact List.mem_cons_of_mem _ (ih h)
      | not => exact List.mem_cons_of_mem _ (ih h)

/-- A leaf stands for an atom of the parts in a field of the set. -/
def IsLeafOf (fields : FieldSet) (parts : List Part) (leaf : String × Atom) : Prop :=
  leaf.1 ∈ fields.names ∧ .atom leaf.2 ∈ parts

theorem isLeafOf_buildGroup {fields : FieldSet} {parts : List Part} {tree : Tree}
    (h : buildGroup fields parts = some tree) {leaf : String × Atom} (hleaf : leaf ∈ tree.leaves) :
    IsLeafOf fields parts leaf := by
  unfold buildGroup at h
  simp only [] at h
  split at h
  · obtain rfl := Option.some.inj h
    obtain ⟨c, hc, hleaf⟩ := (Tree.mem_clauseLeaves _ leaf).1 hleaf
    obtain ⟨s, hs, rfl⟩ := List.mem_map.1 hc
    obtain ⟨hname, hatom⟩ := fields.mem_leaves_query s.atom hleaf
    refine ⟨hname, ?_⟩
    rw [hatom]
    exact atom_mem_of_mem_signedAtoms hs
  · cases h

theorem isLeafOf_build {fields : FieldSet} {parts : List Part} {tree : Tree}
    (h : build fields parts = some tree) {leaf : String × Atom} (hleaf : leaf ∈ tree.leaves) :
    IsLeafOf fields parts leaf := by
  have hgroup : ∀ t ∈ (orGroups parts).filterMap (buildGroup fields), leaf ∈ t.leaves →
      IsLeafOf fields parts leaf := by
    intro t ht hleaf
    obtain ⟨group, hg, ht⟩ := List.mem_filterMap.1 ht
    obtain ⟨before, after, hparts, -⟩ := (mem_orGroups_iff parts group).1 hg
    obtain ⟨hname, hatom⟩ := isLeafOf_buildGroup ht hleaf
    refine ⟨hname, ?_⟩
    rw [hparts]
    simp [hatom]
  unfold build at h
  split at h
  · cases h
  · next t ht =>
    obtain rfl := Option.some.inj h
    exact hgroup t (by simp [ht]) hleaf
  · obtain rfl := Option.some.inj h
    obtain ⟨t, ht, hleaf⟩ := (Tree.mem_leaves_any _ leaf).1 hleaf
    exact hgroup t ht hleaf

/-- A leaf of a compiled query stands for one of its atoms or for its whole phrase. -/
theorem Compiler.leaf_compile (c : Compiler) (raw : String) {tree : Tree}
    (h : (c.compile raw).tree? = some tree) {leaf : String × Atom} (hleaf : leaf ∈ tree.leaves) :
    leaf.1 ∈ c.fields.names ∧
      (.atom leaf.2 ∈ (c.compile raw).parts ∨
        leaf.2 = .phrase (partTerms (c.compile raw).parts)) := by
  obtain ⟨built, hbuilt, rfl | ⟨-, rfl⟩⟩ := c.tree_cases raw h
  · exact (isLeafOf_build hbuilt hleaf).imp_right Or.inl
  · obtain ⟨t, ht, hin⟩ := (Tree.mem_leaves_any _ leaf).1 hleaf
    rcases List.mem_cons.1 ht with rfl | ht
    · exact (isLeafOf_build hbuilt hin).imp_right Or.inl
    · obtain ⟨f, hf, rfl⟩ := List.mem_map.1 ht
      obtain rfl := List.mem_singleton.1 hin
      exact ⟨List.mem_map_of_mem hf, Or.inr rfl⟩

end HelpQuery
