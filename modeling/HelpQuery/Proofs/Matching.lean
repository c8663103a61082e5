import HelpQuery.Proofs.Segments
import HelpQuery.Query.Build
import HelpQuery.Query.Meaning

/-!
# What built queries match

The tree of a group is a conjunction: its plain atoms must be found in some field and its negated
ones in none.  The tree of a whole query is the disjunction of its groups, and the groups without a
plain atom have no part in it.  The sign of an atom is read off the operators before it.

    Finds d (buildGroup fields g) ↔ g has a plain atom, and every signed atom of g holds
    Finds d (build fields parts) ↔ ∃ g ∈ orGroups parts, Finds d (buildGroup fields g)
-/

namespace HelpQuery

/-- Whether a document is found by a query, if there is one; no query finds nothing. -/
def Finds (d : Document) (query? : Option Tree) : Prop := ∃ tree ∈ query?, tree.Matches d

@[simp] theorem finds_none (d : Document) : ¬ Finds d none := by simp [Finds]

@[simp] theorem finds_some (d : Document) (tree : Tree) : Finds d (some tree) ↔ tree.Matches d := by
  simp [Finds]

/-! ## Groups of clauses -/

namespace Tree

theorem clauseMatches_eq (d : Document) (cs : List (Clause Tree)) :
    clauseMatches d cs = cs.map fun c => (c.requirement, c.query.Matches d) := by
  induction cs with
  | nil => simp [clauseMatches]
  | cons c cs ih => simp [clauseMatches, ih]

theorem matches_boolean (d : Document) (cs : List (Clause Tree)) :
    (boolean cs).Matches d ↔
      (∀ c ∈ cs, c.requirement = .required → c.query.Matches d) ∧
      (∀ c ∈ cs, c.requirement = .prohibited → ¬ c.query.Matches d) ∧
      ((∃ c ∈ cs, c.requirement = .required) ∨
        ∃ c ∈ cs, c.requirement = .optional ∧ c.query.Matches d) := by
  simp [Matches, GroupMatches, clauseMatches_eq]

@[simp] theorem matches_any (d : Document) (queries : List Tree) :
    (any queries).Matches d ↔ ∃ q ∈ queries, q.Matches d := by
  simp [any, matches_boolean]

@[simp] theorem matches_leaf (d : Document) (field : String) (a : Atom) (boost : Single) :
    (leaf field a boost).Matches d ↔ a.FoundIn (d field) := by
  simp [Matches]

end Tree

/-! ## Atoms in fields -/

/-- An atom is found in at least one of the fields. -/
def Atom.FoundInAny (fields : FieldSet) (d : Document) (a : Atom) : Prop :=
  ∃ f ∈ fields.toList, a.FoundIn (d f.name)

/-- A plain atom is found, and a negated one is not. -/
def SignedAtom.Holds (fields : FieldSet) (d : Document) (s : SignedAtom) : Prop :=
  if s.negated then ¬ s.atom.FoundInAny fields d else s.atom.FoundInAny fields d

theorem FieldSet.matches_query (fields : FieldSet) (d : Document) (a : Atom) :
    (fields.query a).Matches d ↔ a.FoundInAny fields d := by
  unfold query Atom.FoundInAny
  split
  · next leaf h =>
    obtain ⟨f, hf, rfl⟩ := List.map_eq_singleton_iff.1 h
    simp [hf]
  · simp

/-! ## One group -/

theorem buildGroup_eq_none_iff (fields : FieldSet) (group : List Part) :
    buildGroup fields group = none ↔ ∀ s ∈ signedAtoms false group, s.negated = true := by
  simp [buildGroup]

/-- The clauses of a group are its signed atoms, and the group matches when all of them hold. -/
theorem matches_signed (fields : FieldSet) (d : Document) (atoms : List SignedAtom)
    (hplain : ∃ s ∈ atoms, s.negated = false) :
    (Tree.boolean (atoms.map fun s =>
        ⟨if s.negated then .prohibited else .required, fields.query s.atom⟩)).Matches d ↔
      ∀ s ∈ atoms, s.Holds fields d := by
  obtain ⟨s₀, hs₀, hn₀⟩ := hplain
  rw [Tree.matches_boolean]
  constructor
  · rintro ⟨hreq, hpro, -⟩ s hs
    have hreq := hreq _ (List.mem_map_of_mem hs)
    have hpro := hpro _ (List.mem_map_of_mem hs)
    unfold SignedAtom.Holds
    split
    · next hn => exact fun h => hpro (by simp [hn]) ((fields.matches_query d s.atom).2 h)
    · next hn => exact (fields.matches_query d s.atom).1 (hreq (by simp [hn]))
  · intro h
    refine ⟨?_, ?_, Or.inl ⟨_, List.mem_map_of_mem hs₀, by simp [hn₀]⟩⟩
    · intro c hc hr
      obtain ⟨s, hs, rfl⟩ := List.mem_map.1 hc
      have hn : s.negated = false := by cases hn : s.negated <;> simp [hn] at hr ⊢
      simpa [SignedAtom.Holds, hn, fields.matches_query] using h s hs
    · intro c hc hr
      obtain ⟨s, hs, rfl⟩ := List.mem_map.1 hc
      have hn : s.negated = true := by cases hn : s.negated <;> simp [hn] at hr ⊢
      simpa [SignedAtom.Holds, hn, fields.matches_query] using h s hs

theorem finds_buildGroup (fields : FieldSet) (group : List Part) (d : Document) :
    Finds d (buildGroup fields group) ↔
      (∃ s ∈ signedAtoms false group, s.negated = false) ∧
        ∀ s ∈ signedAtoms false group, s.Holds fields d := by
  unfold buildGroup
  simp only []
  split
  · next h =>
    have hplain : ∃ s ∈ signedAtoms false group, s.negated = false := by simpa using h
    rw [finds_some, matches_signed fields d _ hplain, and_iff_right hplain]
  · next h =>
    have hnone : ¬ ∃ s ∈ signedAtoms false group, s.negated = false := by simpa using h
    simp [hnone]

/-! ## All groups -/

theorem build_eq_none_iff (fields : FieldSet) (parts : List Part) :
    build fields parts = none ↔ ∀ g ∈ orGroups parts, buildGroup fields g = none := by
  rw [← List.filterMap_eq_nil_iff]
  unfold build
  split <;> simp_all

theorem finds_build (fields : FieldSet) (parts : List Part) (d : Document) :
    Finds d (build fields parts) ↔
      ∃ g ∈ orGroups parts, Finds d (buildGroup fields g) := by
  have hmem : (∃ tree ∈ (orGroups parts).filterMap (buildGroup fields), tree.Matches d) ↔
      ∃ g ∈ orGroups parts, Finds d (buildGroup fields g) := by
    constructor
    · rintro ⟨tree, htree, hd⟩
      obtain ⟨g, hg, h⟩ := List.mem_filterMap.1 htree
      exact ⟨g, hg, tree, h, hd⟩
    · rintro ⟨g, hg, tree, h, hd⟩
      exact ⟨tree, List.mem_filterMap.2 ⟨g, hg, h⟩, hd⟩
  rw [← hmem]
  unfold build
  split
  · next h => simp [h]
  · next tree h => simp [h]
  · simp

/-! ## Signs -/

namespace Part

def isOperator : Part → Bool
  | operator _ => true
  | atom _ => false

end Part

/-- Whether an atom after these parts of a group is negated: of the operators since the atom
before it, or since the start, the last one is NOT. -/
def Negates (before : List Part) : Prop :=
  (before.reverse.takeWhile Part.isOperator).head? = some (.operator .not)

theorem not_negates_nil : ¬ Negates [] := by simp [Negates]

theorem negates_concat (before : List Part) (x : Part) :
    Negates (before ++ [x]) ↔ x = .operator .not := by
  unfold Negates
  cases x with
  | atom a => simp [Part.isOperator]
  | operator op => simp [List.takeWhile_cons, Part.isOperator]

theorem signedAtoms_operator (negated : Bool) {op : Operator} (h : op ≠ .or) (rest : List Part) :
    signedAtoms negated (.operator op :: rest) = signedAtoms (op == .not) rest := by
  cases op with
  | and => rfl
  | not => rfl
  | or => exact absurd rfl h

/-- An atom after the first part of a list is the first part, or stands in the rest. -/
theorem exists_cut_cons (x : Part) (rest : List Part) (a : Atom) (P : List Part → Prop) :
    (∃ before after, x :: rest = before ++ .atom a :: after ∧ P before) ↔
      (x = .atom a ∧ P []) ∨ ∃ before after, rest = before ++ .atom a :: after ∧ P (x :: before) := by
  constructor
  · rintro ⟨_ | ⟨y, before⟩, after, h, hP⟩
    · exact Or.inl ⟨(List.cons.inj h).1, hP⟩
    · obtain ⟨rfl, rfl⟩ := List.cons.inj h
      exact Or.inr ⟨before, after, rfl, hP⟩
  · rintro (⟨rfl, hP⟩ | ⟨before, after, rfl, hP⟩)
    · exact ⟨[], rest, rfl, hP⟩
    · exact ⟨x :: before, after, rfl, hP⟩

/-- Signs agree with the operators before the atoms, from any place of a group on. -/
theorem mem_signedAtoms_from (s : SignedAtom) (rest : List Part) (hor : .operator .or ∉ rest) :
    ∀ (seen : List Part) (negated : Bool), (negated = true ↔ Negates seen) →
      (s ∈ signedAtoms negated rest ↔
        ∃ before after, rest = before ++ .atom s.atom :: after ∧
          (s.negated = true ↔ Negates (seen ++ before))) := by
  induction rest with
  | nil => simp [signedAtoms]
  | cons x rest ih =>
    intro seen negated hn
    -- the first part counts as seen for all atoms behind it
    have hrest : ∀ next : Bool, (next = true ↔ Negates (seen ++ [x])) →
        (s ∈ signedAtoms next rest ↔
          ∃ before after, rest = before ++ .atom s.atom :: after ∧
            (s.negated = true ↔ Negates (seen ++ x :: before))) := by
      intro next hnext
      have hseen := ih (fun h => hor (by simp [h])) (seen ++ [x]) next hnext
      simpa only [List.append_assoc, List.singleton_append] using hseen
    have hcut := exists_cut_cons x rest s.atom fun b => s.negated = true ↔ Negates (seen ++ b)
    simp only [List.append_nil, ← hn] at hcut
    rw [hcut]
    cases x with
    | atom a =>
      have hnext : (false = true) ↔ Negates (seen ++ [.atom a]) := by simp [negates_concat]
      rw [← hrest false hnext, signedAtoms, List.mem_cons]
      refine or_congr_left ?_
      obtain ⟨n, b⟩ := s
      simp [and_comm, eq_comm]
    | operator op =>
      have hop : op ≠ .or := fun h => hor (by simp [h])
      have hnext : ((op == .not) = true) ↔ Negates (seen ++ [.operator op]) := by
        simp [negates_concat]
      rw [← hrest _ hnext, signedAtoms_operator negated hop]
      simp

/-- The atom stands in the group with this sign. -/
def HasAtom (group : List Part) (negated : Bool) (a : Atom) : Prop :=
  ∃ before after, group = before ++ .atom a :: after ∧ (negated = true ↔ Negates before)

theorem mem_signedAtoms_iff {group : List Part} (hor : .operator .or ∉ group) (s : SignedAtom) :
    s ∈ signedAtoms false group ↔ HasAtom group s.negated s.atom := by
  have hnil : (false = true) ↔ Negates [] := by simp [not_negates_nil]
  exact mem_signedAtoms_from s group hor [] false hnil

theorem buildGroup_eq_none_iff_hasAtom (fields : FieldSet) {group : List Part}
    (hor : .operator .or ∉ group) :
    buildGroup fields group = none ↔ ∀ a, ¬ HasAtom group false a := by
  rw [buildGroup_eq_none_iff]
  constructor
  · intro h a ha
    have := h ⟨false, a⟩ ((mem_signedAtoms_iff hor _).2 ha)
    cases this
  · rintro h ⟨negated, a⟩ hs
    cases negated with
    | true => rfl
    | false => exact absurd ((mem_signedAtoms_iff hor _).1 hs) (h a)

/-- A group finds the documents that have its plain atoms and none of its negated ones. -/
theorem finds_buildGroup_iff_hasAtom (fields : FieldSet) {group : List Part}
    (hor : .operator .or ∉ group) (d : Document) :
    Finds d (buildGroup fields group) ↔
      (∃ a, HasAtom group false a) ∧ (∀ a, HasAtom group false a → a.FoundInAny fields d) ∧
        ∀ a, HasAtom group true a → ¬ a.FoundInAny fields d := by
  rw [finds_buildGroup]
  constructor
  · rintro ⟨⟨⟨negated, a⟩, hs, rfl⟩, hall⟩
    refine ⟨⟨a, (mem_signedAtoms_iff hor _).1 hs⟩, fun b hb => ?_, fun b hb => ?_⟩
    · exact hall ⟨false, b⟩ ((mem_signedAtoms_iff hor _).2 hb)
    · exact hall ⟨true, b⟩ ((mem_signedAtoms_iff hor _).2 hb)
  · rintro ⟨⟨a, ha⟩, hplain, hnegated⟩
    refine ⟨⟨⟨false, a⟩, (mem_signedAtoms_iff hor _).2 ha, rfl⟩, ?_⟩
    rintro ⟨negated, b⟩ hs
    have hb := (mem_signedAtoms_iff hor _).1 hs
    cases negated with
    | false => exact hplain b hb
    | true => exact hnegated b hb

/-! ## Groups of parts -/

/-- A group of a query: a stretch of its parts without OR that an OR or an end bounds on each
side. -/
def IsGroup (parts group : List Part) : Prop :=
  ∃ before after, parts = before ++ group ++ after ∧ .operator .or ∉ group ∧
    (before = [] ∨ before.getLast? = some (.operator .or)) ∧
    (after = [] ∨ after.head? = some (.operator .or))

theorem IsGroup.noOr {parts group : List Part} (h : IsGroup parts group) :
    .operator .or ∉ group := by
  obtain ⟨-, -, -, hor, -⟩ := h
  exact hor

theorem forall_mem_beq_iff {α : Type} [BEq α] [LawfulBEq α] (o : Option α) (x : α) :
    (∀ y ∈ o, (y == x) = true) ↔ o = none ∨ o = some x := by
  cases o <;> simp

theorem mem_orGroups_iff (parts group : List Part) :
    group ∈ orGroups parts ↔ IsGroup parts group := by
  have hfree : (∀ y ∈ group, (y == .operator .or) = false) ↔ Part.operator .or ∉ group := by
    simp [List.forall_mem_ne']
  simp only [orGroups, mem_segments_iff, forall_mem_beq_iff, hfree, List.getLast?_eq_none_iff,
    List.head?_eq_none_iff, IsGroup]

/-- Parts without OR are one group. -/
theorem orGroups_of_not_mem {parts : List Part} (h : .operator .or ∉ parts) :
    orGroups parts = [parts] := by
  refine segments_of_free _ fun x hx => ?_
  simpa using fun hor : x = .operator .or => h (hor ▸ hx)

theorem isSome_build_single {parts : List Part} (fields : FieldSet)
    (hor : .operator .or ∉ parts) :
    (build fields parts).isSome = true ↔ ∃ s ∈ signedAtoms false parts, s.negated = false := by
  rw [← Option.ne_none_iff_isSome, Ne, build_eq_none_iff, orGroups_of_not_mem hor]
  simp [buildGroup_eq_none_iff]

theorem finds_build_single {parts : List Part} (fields : FieldSet) (hor : .operator .or ∉ parts)
    (d : Document) :
    Finds d (build fields parts) ↔
      (∃ s ∈ signedAtoms false parts, s.negated = false) ∧
        ∀ s ∈ signedAtoms false parts, s.Holds fields d := by
  simp [finds_build, orGroups_of_not_mem hor, finds_buildGroup]

/-! ## The meaning of a query -/

/-- A query without a plain atom in any group has no tree.  Any other one matches the documents in
which, for some group with a plain atom, every plain atom of the group is found and no negated
one. -/
theorem matches_build_iff (fields : FieldSet) (parts : List Part) :
    (build fields parts = none ↔ ∀ group, IsGroup parts group → ∀ a, ¬ HasAtom group false a) ∧
    ∀ tree, build fields parts = some tree → ∀ d,
      (tree.Matches d ↔
        ∃ group, IsGroup parts group ∧ (∃ a, HasAtom group false a) ∧
          (∀ a, HasAtom group false a → a.FoundInAny fields d) ∧
          ∀ a, HasAtom group true a → ¬ a.FoundInAny fields d) := by
  constructor
  · rw [build_eq_none_iff]
    constructor
    · intro h group hg
      exact (buildGroup_eq_none_iff_hasAtom fields hg.noOr).1
        (h group ((mem_orGroups_iff parts group).2 hg))
    · intro h group hg
      have hg := (mem_orGroups_iff parts group).1 hg
      exact (buildGroup_eq_none_iff_hasAtom fields hg.noOr).2 (h group hg)
  · intro tree htree d
    rw [← finds_some d tree, ← htree, finds_build]
    refine exists_congr fun group => ?_
    rw [mem_orGroups_iff]
    refine and_congr_right fun hg => ?_
    exact finds_buildGroup_iff_hasAtom fields hg.noOr d

/-- Titles weigh five times as much as contents. -/
def titleAndContents : FieldSet :=
  ⟨[⟨"title", .ofNat 5⟩, ⟨"contents", .ofNat 1⟩], by simp, by simp [Field.Proper]; decide⟩

/-- The parts of `java NOT swing OR NOT editor`; the second group has no plain atom. -/
def javaNotSwing : List Part :=
  [.atom (.term "java"), .operator .not, .atom (.term "swing"), .operator .or, .operator .not,
    .atom (.term "editor")]

/-- A document without a title. -/
def javaPage : Document := fun field => if field = "contents" then [["java", "editor"]] else []

theorem matches_build_javaNotSwing :
    ∃ tree, build titleAndContents javaNotSwing = some tree ∧ tree.Matches javaPage := by
  let group : List Part := [.atom (.term "java"), .operator .not, .atom (.term "swing")]
  have hor : .operator .or ∉ group := by decide
  have hgroup : IsGroup javaNotSwing group :=
    ⟨[], [.operator .or, .operator .not, .atom (.term "editor")], rfl, hor, by simp, by simp⟩
  have hjava : HasAtom group false (.term "java") :=
    (mem_signedAtoms_iff hor ⟨false, .term "java"⟩).1 (by decide)
  refine ⟨_, rfl, ((matches_build_iff titleAndContents javaNotSwing).2 _ rfl javaPage).2
    ⟨group, hgroup, ⟨_, hjava⟩, fun a ha => ?_, fun a ha => ?_⟩⟩
  · have ha := (mem_signedAtoms_iff hor ⟨false, a⟩).2 ha
    obtain rfl : a = .term "java" := by simpa [group, signedAtoms] using ha
    exact ⟨⟨"contents", .ofNat 1⟩, by simp [titleAndContents], by simp [Atom.FoundIn, javaPage]⟩
  · have ha := (mem_signedAtoms_iff hor ⟨true, a⟩).2 ha
    obtain rfl : a = .term "swing" := by simpa [group, signedAtoms] using ha
    simp [Atom.FoundInAny, titleAndContents, Atom.FoundIn, javaPage]

end HelpQuery
