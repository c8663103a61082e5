import HelpQuery.Proofs.Signs

/-!
# What stands at the leaves of built queries

Read from left to right, the leaves of a built query are the atoms of its groups, each in all
fields.  A group without a plain atom has no leaves, and no other atom is lost or repeated:

    (build fields parts).elim [] Tree.fringe =
      (plainGroups parts).flatMap fun group =>
        (groupAtoms group).flatMap fun a => fields.toList.map (·, a)

The whole-query phrases come behind these leaves, one for each field.
-/

namespace HelpQuery

/-! ## Leaves from left to right -/

namespace Tree

mutual

/-- The leaves of a tree from left to right, each a field with its weight and what is looked for in
it. -/
def fringe : Tree → List (Field × Atom)
  | leaf field atom boost => [(⟨field, boost⟩, atom)]
  | boolean cs => clauseFringe cs

/-- The leaves of the queries of clauses. -/
def clauseFringe : List (Clause Tree) → List (Field × Atom)
  | [] => []
  | ⟨_, query⟩ :: rest => query.fringe ++ clauseFringe rest

end

theorem clauseFringe_eq (cs : List (Clause Tree)) :
    clauseFringe cs = cs.flatMap fun c => c.query.fringe := by
  induction cs with
  | nil => rfl
  | cons c cs ih => rw [clauseFringe, ih, List.flatMap_cons]

theorem fringe_any (trees : List Tree) : (any trees).fringe = trees.flatMap fringe := by
  rw [any, fringe, clauseFringe_eq, List.flatMap_map]

mutual

theorem leafCount_eq (tree : Tree) : tree.leafCount = tree.fringe.length := by
  match tree with
  | leaf field atom boost => rfl
  | boolean cs => rw [leafCount, fringe, leafCountOf_eq cs]

theorem leafCountOf_eq (cs : List (Clause Tree)) :
    leafCountOf cs = (clauseFringe cs).length := by
  match cs with
  | [] => rfl
  | ⟨_, query⟩ :: rest =>
    rw [leafCountOf, clauseFringe, List.length_append, leafCount_eq query, leafCountOf_eq rest]

end

end Tree

/-! ## Leaves of built queries -/

/-- An atom has a leaf in each field. -/
theorem FieldSet.fringe_query (fields : FieldSet) (a : Atom) :
    (fields.query a).fringe = fields.toList.map (·, a) := by
  unfold query
  split
  · next tree htree =>
    obtain ⟨f, hf, rfl⟩ := List.map_eq_singleton_iff.1 htree
    rw [hf]
    rfl
  · rw [Tree.fringe_any, List.flatMap_map, List.map_eq_flatMap]
    rfl

/-- The atoms of a group, in order. -/
def groupAtoms (group : List Part) : List Atom := group.filterMap Part.atom?

/-- Signs take nothing away from the atoms and add nothing to them. -/
theorem map_atom_signedAtoms (negated : Bool) (group : List Part) :
    (signedAtoms negated group).map SignedAtom.atom = groupAtoms group := by
  induction group generalizing negated with
  | nil => rfl
  | cons x group ih =>
    cases x with
    | atom a => exact congrArg (a :: ·) (ih false)
    | operator op =>
      cases op with
      | and => exact ih false
      | or => exact ih negated
      | not => exact ih true

theorem fringe_buildGroup {fields : FieldSet} {group : List Part} {tree : Tree}
    (h : buildGroup fields group = some tree) :
    tree.fringe = (groupAtoms group).flatMap fun a => fields.toList.map (·, a) := by
  rw [buildGroup_eq_searchable?, searchable?] at h
  split at h
  · obtain rfl := Option.some.inj h
    rw [Tree.fringe, Tree.clauseFringe_eq, List.flatMap_map, ← map_atom_signedAtoms false group,
      List.flatMap_map]
    exact List.flatMap_congr fun s _ => fields.fringe_query s.atom
  · cases h

/-! ### Groups with a plain atom -/

instance (before : List Part) : Decidable (Negates before) := inferInstanceAs (Decidable (_ = _))

/-- Whether an atom of a group is not negated. -/
def HasPlainAtom (group : List Part) : Prop := ∃ a, HasAtom group false a

/-- The places of a group tell whether it has a plain atom. -/
theorem hasPlainAtom_iff (group : List Part) :
    (∃ i ∈ List.range group.length,
      (group[i]?.bind Part.atom?).isSome = true ∧ ¬ Negates (group.take i)) ↔
      HasPlainAtom group := by
  constructor
  · rintro ⟨i, hi, hatom, hplain⟩
    rw [List.mem_range] at hi
    obtain ⟨a, ha⟩ : ∃ a, group[i] = .atom a := by
      rw [List.getElem?_eq_getElem hi] at hatom
      cases hx : group[i] with
      | atom a => exact ⟨a, rfl⟩
      | operator op =>
        rw [hx] at hatom
        cases hatom
    refine ⟨a, group.take i, group.drop (i + 1), ?_, by simpa using hplain⟩
    rw [← ha, ← List.drop_eq_getElem_cons hi, List.take_append_drop]
  · rintro ⟨a, before, after, rfl, hplain⟩
    refine ⟨before.length, by simp, ?_, ?_⟩
    · simp [Part.atom?]
    · simpa using hplain

instance (group : List Part) : Decidable (HasPlainAtom group) :=
  decidable_of_iff _ (hasPlainAtom_iff group)

/-- The groups of a query that have a plain atom, in order. -/
def plainGroups (parts : List Part) : List (List Part) :=
  (orGroups parts).filter fun group => HasPlainAtom group

theorem buildGroup_isSome_iff (fields : FieldSet) {group : List Part}
    (hor : .operator .or ∉ group) :
    (buildGroup fields group).isSome = true ↔ HasPlainAtom group := by
  rw [← Option.ne_none_iff_isSome, Ne, buildGroup_eq_none_iff_hasAtom fields hor, HasPlainAtom]
  simp

theorem fringe_anyOf (trees : List Tree) :
    (Tree.anyOf trees).elim [] Tree.fringe = trees.flatMap Tree.fringe := by
  rcases trees with _ | ⟨tree, _ | ⟨other, rest⟩⟩
  · rfl
  · simp [Tree.anyOf]
  · exact Tree.fringe_any _

/-- The leaves of a query are the atoms of its groups with a plain one, each in all fields. -/
theorem fringe_build (fields : FieldSet) (parts : List Part) :
    (build fields parts).elim [] Tree.fringe =
      (plainGroups parts).flatMap fun group =>
        (groupAtoms group).flatMap fun a => fields.toList.map (·, a) := by
  have hor : ∀ group ∈ orGroups parts, .operator .or ∉ group := fun group hgroup =>
    ((mem_orGroups_iff parts group).1 hgroup).noOr
  rw [build_eq_anyOf, fringe_anyOf, plainGroups]
  generalize orGroups parts = groups at hor
  induction groups with
  | nil => rfl
  | cons group groups ih =>
    obtain ⟨hgroup, hgroups⟩ := List.forall_mem_cons.1 hor
    have hsome := buildGroup_isSome_iff fields hgroup
    cases hbuild : buildGroup fields group with
    | none =>
      have hplain : ¬ HasPlainAtom group := by
        rw [← hsome, hbuild]
        exact Bool.false_ne_true
      rw [List.filterMap_cons_none hbuild, ih hgroups,
        List.filter_cons_of_neg (by simpa using hplain)]
    | some tree =>
      have hplain : HasPlainAtom group := by
        rw [← hsome, hbuild]
        rfl
      rw [List.filterMap_cons_some hbuild, List.flatMap_cons, ih hgroups,
        List.filter_cons_of_pos (by simpa using hplain), List.flatMap_cons,
        fringe_buildGroup hbuild]

example : plainGroups javaNotSwing =
    [[.atom (.term "java"), .operator .not, .atom (.term "swing")]] := by decide

/-! ## Leaves of ranked queries -/

/-- The whole-query phrases come behind the leaves that are there. -/
theorem fringe_enhance (tree : Tree) (parts : List Part) (fields : FieldSet) (factor : Single) :
    (enhance tree parts fields factor).fringe =
      tree.fringe ++
        if parts ≠ [] ∧ isPlainWordQuery parts then
          fields.toList.map fun f => (⟨f.name, factor * f.boost⟩, .phrase (partTerms parts))
        else [] := by
  unfold enhance
  split
  · rw [Tree.fringe_any, List.flatMap_cons, List.flatMap_map, List.map_eq_flatMap]
    rfl
  · rw [List.append_nil]

end HelpQuery
