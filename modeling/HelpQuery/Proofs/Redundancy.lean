import HelpQuery.Proofs.Fringes
import Mathlib.Logic.Relation

/-!
# Redundant operators

A query is built from the signed atoms of its groups.  What stands in the middle of a query belongs
to one group, whose signed atoms are those in front of it, its own and those behind it; the sign that
it starts with is that of the part in front of it:

    signedAtoms false (left ++ rest) =
      signedAtoms false left ++ signedAtoms (decide (Negates left)) rest

So an operator has no influence if it leaves these atoms alone, or if it only adds an empty group.
-/

namespace HelpQuery

/-! ## Signed atoms of two stretches -/

/-- A stretch of a group hands the sign of its last part on to what comes behind it. -/
theorem signedAtoms_append (seen left rest : List Part) (hor : .operator .or ∉ left) :
    signedAtoms (decide (Negates seen)) (left ++ rest) =
      signedAtoms (decide (Negates seen)) left ++
        signedAtoms (decide (Negates (seen ++ left))) rest := by
  induction left generalizing seen with
  | nil => simp [signedAtoms]
  | cons x left ih =>
    have hleft : .operator .or ∉ left := fun h => hor (List.mem_cons_of_mem _ h)
    have hnext := ih (seen ++ [x]) hleft
    rw [List.append_assoc, List.singleton_append] at hnext
    cases x with
    | atom a =>
      have hplain : decide (Negates (seen ++ [.atom a])) = false := by simp [negates_concat]
      rw [hplain] at hnext
      rw [List.cons_append, signedAtoms, hnext, signedAtoms, List.cons_append]
    | operator op =>
      have hop : op ≠ .or := by
        rintro rfl
        exact hor List.mem_cons_self
      have hsign : decide (Negates (seen ++ [.operator op])) = (op == .not) := by
        rw [Bool.eq_iff_iff]
        simp [negates_concat]
      rw [hsign] at hnext
      rw [List.cons_append, signedAtoms_operator _ hop, hnext, signedAtoms_operator _ hop]

/-- Only operators in a stretch make no atoms. -/
theorem signedAtoms_operators (negated : Bool) {ops : List Part}
    (h : ∀ x ∈ ops, x.isOperator = true) : signedAtoms negated ops = [] := by
  induction ops generalizing negated with
  | nil => rfl
  | cons x ops ih =>
    obtain ⟨hx, hops⟩ := List.forall_mem_cons.1 h
    cases x with
    | atom a => cases hx
    | operator op => cases op <;> exact ih _ hops

/-! ## Queries with the same atoms -/

/-- The last group of a query ends in what the query ends in. -/
theorem negates_last_iff {parts last : List Part} {init : List (List Part)}
    (h : orGroups parts = init ++ [last]) : Negates last ↔ Negates parts := by
  obtain ⟨front, rfl, hfront⟩ := exists_append_last _ h
  rcases List.eq_nil_or_concat' last with rfl | ⟨last, x, rfl⟩
  · rw [List.append_nil]
    rcases List.eq_nil_or_concat' front with rfl | ⟨front, x, rfl⟩
    · rfl
    · have hx : x = .operator .or := by simpa using hfront x (by simp)
      rw [negates_concat, hx]
      simp [not_negates_nil]
  · rw [negates_concat, ← List.append_assoc, negates_concat]

theorem buildGroup_congr (fields : FieldSet) {group group' : List Part}
    (h : signedAtoms false group = signedAtoms false group') :
    buildGroup fields group = buildGroup fields group' := by
  unfold buildGroup
  rw [h]

/-- A stretch of a query can be replaced by another one if the atoms of the group are the same. -/
theorem build_replace (fields : FieldSet) (before after : List Part) {mid mid' : List Part}
    (hmid : .operator .or ∉ mid) (hmid' : .operator .or ∉ mid')
    (h : ∀ first ∈ (orGroups after).head?,
      signedAtoms (decide (Negates before)) (mid ++ first) =
        signedAtoms (decide (Negates before)) (mid' ++ first)) :
    build fields (before ++ mid ++ after) = build fields (before ++ mid' ++ after) := by
  have hfree : ∀ {m : List Part}, .operator .or ∉ m →
      ∀ y ∈ m, (y == Part.operator .or) = false := by
    intro m hm y hy
    exact beq_false_of_ne fun h => hm (h ▸ hy)
  obtain ⟨init, last, hbefore⟩ : ∃ init last, orGroups before = init ++ [last] :=
    (List.eq_nil_or_concat' _).resolve_left (segments_ne_nil _ before)
  obtain ⟨first, rest, hafter⟩ := List.exists_cons_of_ne_nil (segments_ne_nil _ after)
  have hor : .operator .or ∉ last := by
    have hgroup : last ∈ orGroups before := by simp [hbefore]
    exact ((mem_orGroups_iff before last).1 hgroup).noOr
  -- the signs start anew in each group, so only the last one of those in front counts
  have hlast : ∀ m, signedAtoms false (last ++ m ++ first) =
      signedAtoms false last ++ signedAtoms (decide (Negates before)) (m ++ first) := by
    intro m
    have hsigns := signedAtoms_append [] last (m ++ first) hor
    rw [decide_eq_false not_negates_nil, List.nil_append] at hsigns
    rw [List.append_assoc, hsigns]
    simp only [negates_last_iff hbefore]
  have hgroups : ∀ {m : List Part}, .operator .or ∉ m →
      orGroups (before ++ m ++ after) = init ++ (last ++ m ++ first) :: rest := fun hm =>
    segments_append_append _ hbefore (hfree hm) hafter
  have hsame : buildGroup fields (last ++ mid ++ first) =
      buildGroup fields (last ++ mid' ++ first) := by
    refine buildGroup_congr fields ?_
    rw [hlast, hlast, h first (by rw [orGroups, hafter]; rfl)]
  rw [build_eq_anyOf, build_eq_anyOf, hgroups hmid, hgroups hmid', List.filterMap_append,
    List.filterMap_append, List.filterMap_cons, List.filterMap_cons, hsame]

/-! ## Operators that are not needed -/

/-- A second list of parts has one operator more than the first, at a place where it has no
influence. -/
inductive AddsRedundant : List Part → List Part → Prop where
  /-- AND in front of an atom that is not negated. -/
  | andBeforePlain {before after : List Part} (a : Atom) : ¬ Negates before →
      AddsRedundant (before ++ .atom a :: after) (before ++ .operator .and :: .atom a :: after)
  /-- AND or NOT a second time. -/
  | repeated (before after : List Part) {op : Operator} : op ≠ .or →
      AddsRedundant (before ++ .operator op :: after)
        (before ++ .operator op :: .operator op :: after)
  /-- AND or NOT at the end of a group. -/
  | atGroupEnd (before : List Part) {after : List Part} {op : Operator} : op ≠ .or →
      after = [] ∨ after.head? = some (.operator .or) →
      AddsRedundant (before ++ after) (before ++ .operator op :: after)
  /-- OR at the start. -/
  | orAtStart (parts : List Part) : AddsRedundant parts (.operator .or :: parts)
  /-- OR at the end. -/
  | orAtEnd (parts : List Part) : AddsRedundant parts (parts ++ [.operator .or])
  /-- OR next to another one. -/
  | orNextToOr (before after : List Part) :
      AddsRedundant (before ++ .operator .or :: after)
        (before ++ .operator .or :: .operator .or :: after)

theorem orGroups_or (before after : List Part) :
    orGroups (before ++ .operator .or :: after) = orGroups before ++ orGroups after :=
  segments_append_cons _ before after rfl

theorem filterMap_buildGroup_nil (fields : FieldSet) :
    (orGroups []).filterMap (buildGroup fields) = [] := rfl

/-- A redundant operator leaves the query as it is. -/
theorem build_addsRedundant (fields : FieldSet) {parts parts' : List Part}
    (h : AddsRedundant parts parts') : build fields parts' = build fields parts := by
  cases h with
  | @andBeforePlain before after a hplain =>
    have hsigns : ∀ first,
        signedAtoms (decide (Negates before)) ([.operator .and, .atom a] ++ first) =
          signedAtoms (decide (Negates before)) ([.atom a] ++ first) := by
      intro first
      rw [decide_eq_false hplain]
      rfl
    have hreplace := build_replace fields before after (by simp) (by simp) fun first _ =>
      hsigns first
    simpa using hreplace
  | @repeated before after op hop =>
    have hsigns : ∀ first,
        signedAtoms (decide (Negates before)) ([.operator op, .operator op] ++ first) =
          signedAtoms (decide (Negates before)) ([.operator op] ++ first) := by
      intro first
      simp only [List.cons_append, List.nil_append, signedAtoms_operator _ hop]
    have hreplace := build_replace fields before after (by simpa using hop.symm)
      (by simpa using hop.symm) fun first _ => hsigns first
    simpa using hreplace
  | @atGroupEnd before after op hop hafter =>
    have hfirst : ∀ first ∈ (orGroups after).head?, first = [] := by
      intro first hfirst
      rcases hafter with rfl | hafter
      · exact (Option.some.inj hfirst).symm
      · obtain ⟨after, rfl⟩ := List.head?_eq_some_iff.1 hafter
        exact (Option.some.inj hfirst).symm
    have hsigns : ∀ first ∈ (orGroups after).head?,
        signedAtoms (decide (Negates before)) ([.operator op] ++ first) =
          signedAtoms (decide (Negates before)) ([] ++ first) := by
      intro first hmem
      rw [hfirst first hmem, signedAtoms_operators _ (by simp [Part.isOperator])]
      rfl
    have hreplace := build_replace fields before after (by simpa using hop.symm)
      List.not_mem_nil hsigns
    simpa using hreplace
  | orAtStart =>
    have hgroups := orGroups_or [] parts
    rw [List.nil_append] at hgroups
    rw [build_eq_anyOf, build_eq_anyOf, hgroups, List.filterMap_append, filterMap_buildGroup_nil,
      List.nil_append]
  | orAtEnd =>
    rw [build_eq_anyOf, build_eq_anyOf, orGroups_or, List.filterMap_append,
      filterMap_buildGroup_nil, List.append_nil]
  | orNextToOr before after =>
    have hgroups := orGroups_or [] after
    rw [List.nil_append] at hgroups
    rw [build_eq_anyOf, build_eq_anyOf, orGroups_or, orGroups_or, hgroups, List.filterMap_append,
      List.filterMap_append, List.filterMap_append, filterMap_buildGroup_nil, List.nil_append]

/-- Any number of redundant operators leaves the query as it is. -/
theorem build_of_redundant (fields : FieldSet) {parts parts' : List Part}
    (h : Relation.ReflTransGen AddsRedundant parts parts') :
    build fields parts' = build fields parts := by
  induction h with
  | refl => rfl
  | tail _ hstep ih => rw [build_addsRedundant fields hstep, ih]

/-! ## The account of a query -/

/-- The leaves of a query are, from left to right, the atoms of its groups with a plain one, each in
all fields with their boosts; ranking adds a leaf for each field to a query of plain words and none
to any other.  Redundant operators leave the query as it is. -/
theorem build_account (fields : FieldSet) (parts : List Part) :
    (build fields parts).elim [] Tree.fringe =
        ((plainGroups parts).flatMap fun group =>
          (groupAtoms group).flatMap fun a => fields.toList.map (·, a)) ∧
      (build fields parts).elim 0 Tree.leafCount =
        fields.toList.length * ((plainGroups parts).flatMap groupAtoms).length ∧
      (∀ tree factor, ∃ added,
        (enhance tree parts fields factor).fringe = tree.fringe ++ added ∧
          (enhance tree parts fields factor).leafCount = tree.leafCount + added.length ∧
          added.length = if parts ≠ [] ∧ ∀ x ∈ parts, x.isPlainWord = true then
            fields.toList.length else 0) ∧
      ∀ parts', Relation.ReflTransGen AddsRedundant parts parts' →
        build fields parts' = build fields parts := by
  have hfringe := fringe_build fields parts
  refine ⟨hfringe, ?_, fun tree factor => ?_, fun parts' h => build_of_redundant fields h⟩
  · have hcount : (build fields parts).elim 0 Tree.leafCount =
        ((build fields parts).elim [] Tree.fringe).length := by
      cases build fields parts with
      | none => rfl
      | some tree => exact tree.leafCount_eq
    rw [hcount, hfringe, ← List.flatMap_assoc, List.length_flatMap]
    simp [Nat.mul_comm]
  · refine ⟨_, fringe_enhance tree parts fields factor, ?_, ?_⟩
    · rw [Tree.leafCount_eq, Tree.leafCount_eq, fringe_enhance, List.length_append]
    · simp only [isPlainWordQuery, List.all_eq_true]
      split <;> simp

/-- AND in front of the first atom, NOT a second time and OR at the end. -/
theorem build_account_javaNotSwing :
    build titleAndContents
        [.operator .and, .atom (.term "java"), .operator .not, .operator .not,
          .atom (.term "swing"), .operator .or, .operator .not, .atom (.term "editor"),
          .operator .or] =
      build titleAndContents javaNotSwing := by
  let java : List Part := [.operator .and, .atom (.term "java")]
  let others : List Part := [.operator .or, .operator .not, .atom (.term "editor")]
  have hand : AddsRedundant javaNotSwing (.operator .and :: javaNotSwing) :=
    @AddsRedundant.andBeforePlain [] (.operator .not :: .atom (.term "swing") :: others)
      (.term "java") not_negates_nil
  have hnot : AddsRedundant (.operator .and :: javaNotSwing)
      (java ++ .operator .not :: .operator .not :: .atom (.term "swing") :: others) :=
    .repeated java (.atom (.term "swing") :: others) (by decide)
  have hor := AddsRedundant.orAtEnd
    (java ++ .operator .not :: .operator .not :: .atom (.term "swing") :: others)
  have hchain := ((Relation.ReflTransGen.single hand).tail hnot).tail hor
  exact (build_account titleAndContents javaNotSwing).2.2.2 _ hchain

end HelpQuery
