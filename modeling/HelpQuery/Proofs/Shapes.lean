import HelpQuery.Proofs.Leaves

/-!
# Shapes of compiled queries

Groups nest at most three deep in a compiled query: the alternatives of the whole, the atoms of one
of them, the fields of an atom.  None is empty, and each holds alternatives only or has something
required, so a document without terms matches none of them.  Leaves are in fields of the set and
have something to look for.

    c.compile raw has the tree t → (∀ cs ∈ t.groups, Searchable cs) ∧ t.depth ≤ 3 ∧ …
-/

namespace HelpQuery

/-! ## Groups -/

/-- Clauses a group can be searched with: there are some, and either all are optional or none is
and at least one is required. -/
structure Searchable (cs : List (Clause Tree)) : Prop where
  ne_nil : cs ≠ []
  kind : (∀ c ∈ cs, c.requirement = .optional) ∨
    (∀ c ∈ cs, c.requirement ≠ .optional) ∧ ∃ c ∈ cs, c.requirement = .required

namespace Tree

mutual

/-- The clauses of each group in a tree, those of outer groups first. -/
def groups : Tree → List (List (Clause Tree))
  | leaf .. => []
  | boolean cs => cs :: clauseGroups cs

/-- The clauses of each group below a list of clauses. -/
def clauseGroups : List (Clause Tree) → List (List (Clause Tree))
  | [] => []
  | ⟨_, query⟩ :: rest => query.groups ++ clauseGroups rest

end

mutual

/-- How deep the groups of a tree are nested. -/
def depth : Tree → Nat
  | leaf .. => 0
  | boolean cs => clauseDepth cs + 1

/-- How deep the groups below a list of clauses are nested. -/
def clauseDepth : List (Clause Tree) → Nat
  | [] => 0
  | ⟨_, query⟩ :: rest => max query.depth (clauseDepth rest)

end

theorem mem_clauseGroups (cs group : List (Clause Tree)) :
    group ∈ clauseGroups cs ↔ ∃ c ∈ cs, group ∈ c.query.groups := by
  induction cs with
  | nil => simp [clauseGroups]
  | cons c cs ih => simp [clauseGroups, ih]

theorem clauseDepth_le_iff (cs : List (Clause Tree)) (n : Nat) :
    clauseDepth cs ≤ n ↔ ∀ c ∈ cs, c.query.depth ≤ n := by
  induction cs with
  | nil => simp [clauseDepth]
  | cons c cs ih => rw [clauseDepth, Nat.max_le, ih, List.forall_mem_cons]

/-- All groups of a tree can be searched, and they are at most `n` deep. -/
structure Shaped (n : Nat) (tree : Tree) : Prop where
  searchable : ∀ cs ∈ tree.groups, Searchable cs
  depth_le : tree.depth ≤ n

theorem Shaped.mono {m n : Nat} {tree : Tree} (h : tree.Shaped m) (hmn : m ≤ n) :
    tree.Shaped n :=
  ⟨h.searchable, Nat.le_trans h.depth_le hmn⟩

theorem shaped_leaf (field : String) (a : Atom) (boost : Single) :
    (leaf field a boost).Shaped 0 :=
  ⟨by simp [groups], Nat.le_refl 0⟩

/-- A group is one level deeper than its clauses. -/
theorem shaped_boolean {n : Nat} {cs : List (Clause Tree)} (hcs : Searchable cs)
    (h : ∀ c ∈ cs, c.query.Shaped n) : (boolean cs).Shaped (n + 1) := by
  refine ⟨fun group hgroup => ?_, ?_⟩
  · rcases List.mem_cons.1 hgroup with rfl | hgroup
    · exact hcs
    · obtain ⟨c, hc, hgroup⟩ := (mem_clauseGroups cs group).1 hgroup
      exact (h c hc).searchable group hgroup
  · rw [depth, Nat.add_le_add_iff_right, clauseDepth_le_iff]
    exact fun c hc => (h c hc).depth_le

theorem shaped_any {n : Nat} {queries : List Tree} (hne : queries ≠ [])
    (h : ∀ q ∈ queries, q.Shaped n) : (any queries).Shaped (n + 1) := by
  have hoptional : ∀ c ∈ queries.map (Clause.mk .optional), c.requirement = .optional := by
    simp
  refine shaped_boolean ⟨by simpa using hne, Or.inl hoptional⟩ fun c hc => ?_
  obtain ⟨q, hq, rfl⟩ := List.mem_map.1 hc
  exact h q hq

end Tree

/-! ## Built trees -/

theorem FieldSet.shaped_query (fields : FieldSet) (a : Atom) : (fields.query a).Shaped 1 := by
  have hleaf : ∀ tree ∈ fields.toList.map fun f => Tree.leaf f.name a f.boost,
      tree.Shaped 0 := by
    intro tree htree
    obtain ⟨f, -, rfl⟩ := List.mem_map.1 htree
    exact Tree.shaped_leaf f.name a f.boost
  unfold query
  split
  · next leaf h => exact (hleaf leaf (by simp [h])).mono (Nat.zero_le 1)
  · exact Tree.shaped_any (by simpa using fields.ne_nil) hleaf

/-- A group has a required clause, and none of its clauses is optional. -/
theorem shaped_buildGroup {fields : FieldSet} {parts : List Part} {tree : Tree}
    (h : buildGroup fields parts = some tree) : tree.Shaped 2 := by
  unfold buildGroup at h
  simp only [] at h
  split at h
  · next hplain =>
    obtain rfl := Option.some.inj h
    obtain ⟨s, hs, hn⟩ := List.any_eq_true.1 hplain
    have hn : s.negated = false := by simpa using hn
    refine Tree.shaped_boolean ⟨?_, Or.inr ⟨?_, ?_⟩⟩ ?_
    · simpa using List.ne_nil_of_mem hs
    · intro c hc
      obtain ⟨s, -, rfl⟩ := List.mem_map.1 hc
      cases s.negated <;> simp
    · exact ⟨_, List.mem_map_of_mem hs, by simp [hn]⟩
    · intro c hc
      obtain ⟨s, -, rfl⟩ := List.mem_map.1 hc
      exact fields.shaped_query s.atom
  · cases h

theorem shaped_build {fields : FieldSet} {parts : List Part} {tree : Tree}
    (h : build fields parts = some tree) : tree.Shaped 3 := by
  have hgroup : ∀ t ∈ (orGroups parts).filterMap (buildGroup fields), t.Shaped 2 := by
    intro t ht
    obtain ⟨group, -, ht⟩ := List.mem_filterMap.1 ht
    exact shaped_buildGroup ht
  unfold build at h
  split at h
  · cases h
  · next t ht =>
    obtain rfl := Option.some.inj h
    exact (hgroup t (by simp [ht])).mono (by omega)
  · next hne _ =>
    obtain rfl := Option.some.inj h
    exact Tree.shaped_any hne hgroup

/-- Parts without OR need one level less. -/
theorem shaped_build_single {fields : FieldSet} {parts : List Part} {tree : Tree}
    (hor : .operator .or ∉ parts) (h : build fields parts = some tree) : tree.Shaped 2 := by
  have hgroups : (orGroups parts).filterMap (buildGroup fields) =
      (buildGroup fields parts).toList := by
    rw [orGroups_of_not_mem hor, List.filterMap_cons, List.filterMap_nil]
    cases buildGroup fields parts <;> rfl
  unfold build at h
  rw [hgroups] at h
  cases hgroup : buildGroup fields parts with
  | none => simp [hgroup] at h
  | some t =>
    rw [hgroup] at h
    obtain rfl := Option.some.inj h
    exact shaped_buildGroup hgroup

/-- The whole-query phrases add a level, but only to queries without OR. -/
theorem Compiler.shaped_compile (c : Compiler) (raw : String) {tree : Tree}
    (h : (c.compile raw).tree? = some tree) : tree.Shaped 3 := by
  obtain ⟨built, hbuilt, rfl | ⟨hplain, rfl⟩⟩ := c.tree_cases raw h
  · exact shaped_build hbuilt
  · refine Tree.shaped_any (List.cons_ne_nil _ _) (List.forall_mem_cons.2 ⟨?_, ?_⟩)
    · exact shaped_build_single (or_not_mem_plain hplain) hbuilt
    · intro t ht
      obtain ⟨f, -, rfl⟩ := List.mem_map.1 ht
      exact (Tree.shaped_leaf _ _ _).mono (by omega)

/-! ## Atoms -/

/-- A wildcard has a character that stands for others, and a phrase has a term. -/
def Atom.Proper : Atom → Prop
  | term _ => True
  | wildcard pattern => '?' ∈ pattern.toList ∨ '*' ∈ pattern.toList
  | phrase terms => terms ≠ []

theorem Atom.Proper.terms_ne_nil {a : Atom} (h : a.Proper) : a.terms ≠ [] := by
  cases a with
  | term text => exact List.cons_ne_nil _ _
  | wildcard pattern => exact List.cons_ne_nil _ _
  | phrase terms => exact h

/-- Analysis makes no wildcard of a word without wildcard characters, and no empty phrase. -/
theorem proper_of_mem_analyzeTokens {analyzer : Analyzer} {tokens : List Token} {a : Atom}
    (h : .atom a ∈ analyzeTokens analyzer tokens) : a.Proper := by
  obtain ⟨t, -, ht⟩ := mem_analyzeTokens.1 h
  cases t with
  | word text =>
    rw [Token.analyze_word] at ht
    split at ht
    · next hwild =>
      obtain rfl : a = .wildcard text := by simpa using ht
      obtain ⟨c, hc, hwild⟩ := List.any_eq_true.1 hwild
      rcases Bool.or_eq_true_iff.1 hwild with hq | hs
      · exact Or.inl (beq_iff_eq.1 hq ▸ hc)
      · exact Or.inr (beq_iff_eq.1 hs ▸ hc)
    · obtain ⟨term, -, hterm⟩ := List.mem_map.1 ht
      obtain rfl := Part.atom.inj hterm
      trivial
  | phrase text =>
    rw [Token.analyze_phrase] at ht
    obtain ⟨hne, ha⟩ := Part.mem_ofQuoted.1 ht
    obtain rfl := Part.atom.inj ha
    exact hne
  | operator op => simp at ht

/-- A query that has a tree has an atom. -/
theorem exists_atom_of_build {fields : FieldSet} {parts : List Part}
    (h : (build fields parts).isSome = true) : ∃ a, .atom a ∈ parts := by
  rw [← Option.ne_none_iff_isSome, Ne, build_eq_none_iff] at h
  simp only [buildGroup_eq_none_iff, not_forall] at h
  obtain ⟨group, hgroup, s, hs, -⟩ := h
  obtain ⟨before, after, rfl, -⟩ := (mem_orGroups_iff parts group).1 hgroup
  have hmem : .atom s.atom ∈ group := atom_mem_of_mem_signedAtoms hs
  exact ⟨s.atom, by simp [hmem]⟩

/-- The leaves of a compiled query have something to look for, the whole-query phrases included. -/
theorem Compiler.proper_leaf_compile (c : Compiler) (raw : String) {tree : Tree}
    (h : (c.compile raw).tree? = some tree) {leaf : String × Atom} (hleaf : leaf ∈ tree.leaves) :
    leaf.2.Proper := by
  rcases (c.leaf_compile raw h hleaf).2 with hatom | hphrase
  · rw [c.parts_compile] at hatom
    exact proper_of_mem_analyzeTokens hatom
  · have hbuild : (build c.fields (c.compile raw).parts).isSome = true := by
      rw [← c.isSome_compile, h]
      rfl
    obtain ⟨a, ha⟩ := exists_atom_of_build hbuild
    have hterms : a.terms ≠ [] := by
      rw [c.parts_compile] at ha
      exact (proper_of_mem_analyzeTokens ha).terms_ne_nil
    rw [hphrase]
    intro hnil
    exact hterms (List.flatMap_eq_nil_iff.1 hnil _ ha)

/-! ## Documents without terms -/

/-- Groups that can be searched ask for something to be found. -/
theorem Tree.not_matches_of_no_terms {d : Document} (hd : ∀ field, ∀ p ∈ d field, p = [])
    {tree : Tree} (h : ∀ cs ∈ tree.groups, Searchable cs) : ¬ tree.Matches d := by
  induction tree using induction_clauses with
  | leaf field a boost =>
    rw [matches_leaf]
    cases a with
    | term text =>
      rintro ⟨p, hp, ht⟩
      simp [hd field p hp] at ht
    | wildcard pattern =>
      rintro ⟨p, hp, t, ht, -⟩
      simp [hd field p hp] at ht
    | phrase terms =>
      rintro ⟨hne, p, hp, hinfix⟩
      rw [hd field p hp] at hinfix
      exact hne (List.eq_nil_of_infix_nil hinfix)
  | boolean cs ih =>
    have hnone : ∀ c ∈ cs, ¬ c.query.Matches d := fun c hc =>
      ih c hc fun group hgroup =>
        h group (List.mem_cons_of_mem _ ((mem_clauseGroups cs group).2 ⟨c, hc, hgroup⟩))
    rw [matches_boolean]
    rintro ⟨hrequired, -, hsome⟩
    rcases (h cs List.mem_cons_self).kind with hoptional | ⟨-, c, hc, hr⟩
    · rcases hsome with ⟨c, hc, hr⟩ | ⟨c, hc, -, hmatch⟩
      · rw [hoptional c hc] at hr
        cases hr
      · exact hnone c hc hmatch
    · exact hnone c hc (hrequired c hc hr)

/-! ## Compiled queries -/

/-- The groups of a compiled query are at most three deep, each can be searched, its leaves are in
fields of the set and have something to look for, and a document without terms does not match. -/
theorem Compiler.shape_compile (c : Compiler) (raw : String) {tree : Tree}
    (h : (c.compile raw).tree? = some tree) :
    (∀ cs ∈ tree.groups, Searchable cs) ∧ tree.depth ≤ 3 ∧
      (∀ leaf ∈ tree.leaves, leaf.1 ∈ c.fields.names ∧ leaf.2.Proper) ∧
      ∀ d : Document, (∀ field, ∀ p ∈ d field, p = []) → ¬ tree.Matches d := by
  obtain ⟨hsearchable, hdepth⟩ := c.shaped_compile raw h
  refine ⟨hsearchable, hdepth, fun leaf hleaf => ?_, fun d hd => ?_⟩
  · exact ⟨(c.leaf_compile raw h hleaf).1, c.proper_leaf_compile raw h hleaf⟩
  · exact Tree.not_matches_of_no_terms hd hsearchable

/-- A compiler whose analyzer has no term for articles. -/
def articleFreeCompiler : Compiler :=
  ⟨fun word => if word = "the" then [] else [word], titleAndContents, .default⟩

/-- A word without a term and a wildcard, ranked by a phrase of the other two words. -/
theorem Compiler.shape_compile_editors :
    ∃ tree, (articleFreeCompiler.compile "the java edit*").tree? = some tree ∧
      (∀ cs ∈ tree.groups, Searchable cs) ∧ tree.depth ≤ 3 ∧
      (∀ leaf ∈ tree.leaves, leaf.1 ∈ ["title", "contents"] ∧ leaf.2.Proper) ∧
      ¬ tree.Matches fun _ => [[]] := by
  have hsome : (articleFreeCompiler.compile "the java edit*").tree?.isSome = true := by decide
  obtain ⟨tree, htree⟩ := Option.isSome_iff_exists.1 hsome
  obtain ⟨hgroups, hdepth, hleaves, hmatch⟩ :=
    articleFreeCompiler.shape_compile "the java edit*" htree
  exact ⟨tree, htree, hgroups, hdepth, hleaves, hmatch _ (by simp)⟩

end HelpQuery
