import HelpQuery.Proofs.Ranking
import HelpQuery.Proofs.Rounding
import HelpQuery.Settings.Warning

/-!
# Boosts of compiled queries

The leaves of the tree built for a query have the boosts of their fields, which are finite and
positive, and the whole-query phrases have products of these with the factor of the settings.  A
factor that no warning is given for is greater than one, if it is a number at all, so a product that
is finite is positive too:

    boost ∈ (enhance tree parts fields factor).boosts ↔
      boost ∈ tree.boosts ∨ … ∃ f ∈ fields.toList, boost = factor * f.boost
    ¬ factor ≤ 1 → (factor * boost).isFinite → (factor * boost).isPositive

That such a product is finite is checked nowhere.
-/

namespace HelpQuery

/-! ## Boosts of trees -/

namespace Tree

mutual

/-- The boosts of the leaves of a tree. -/
def boosts : Tree → List Single
  | leaf _ _ boost => [boost]
  | boolean cs => clauseBoosts cs

/-- The boosts below a list of clauses. -/
def clauseBoosts : List (Clause Tree) → List Single
  | [] => []
  | ⟨_, query⟩ :: rest => query.boosts ++ clauseBoosts rest

end

theorem mem_clauseBoosts (cs : List (Clause Tree)) (boost : Single) :
    boost ∈ clauseBoosts cs ↔ ∃ c ∈ cs, boost ∈ c.query.boosts := by
  induction cs with
  | nil => simp [clauseBoosts]
  | cons c cs ih => simp [clauseBoosts, ih]

theorem mem_boosts_any (trees : List Tree) (boost : Single) :
    boost ∈ (any trees).boosts ↔ ∃ tree ∈ trees, boost ∈ tree.boosts := by
  simp [any, boosts, mem_clauseBoosts]

end Tree

/-! ### Boosts of the tree that is built -/

section Build

variable {fields : FieldSet} {motive : Tree → Prop}
  (leaf : ∀ f ∈ fields.toList, ∀ a, motive (.leaf f.name a f.boost))
  (boolean : ∀ cs, (∀ c ∈ cs, motive c.query) → motive (.boolean cs))

include leaf boolean

theorem FieldSet.query_induction (a : Atom) : motive (fields.query a) := by
  unfold query
  split
  · next tree htree =>
    obtain ⟨f, hf, rfl⟩ := List.map_eq_singleton_iff.1 htree
    exact leaf f (by simp [hf]) a
  · refine boolean _ fun c hc => ?_
    obtain ⟨tree, htree, rfl⟩ := List.mem_map.1 hc
    obtain ⟨f, hf, rfl⟩ := List.mem_map.1 htree
    exact leaf f hf a

theorem buildGroup_induction {parts : List Part} {tree : Tree}
    (h : buildGroup fields parts = some tree) : motive tree := by
  unfold buildGroup at h
  simp only [] at h
  split at h
  · obtain rfl := Option.some.inj h
    refine boolean _ fun c hc => ?_
    obtain ⟨s, -, rfl⟩ := List.mem_map.1 hc
    exact FieldSet.query_induction leaf boolean s.atom
  · cases h

/-- What holds of the leaves over the fields, and of groups of trees it holds of, holds of the tree
that is built. -/
theorem build_induction {parts : List Part} {tree : Tree} (h : build fields parts = some tree) :
    motive tree := by
  have hgroup : ∀ t ∈ (orGroups parts).filterMap (buildGroup fields), motive t := by
    intro t ht
    obtain ⟨group, -, hgroup⟩ := List.mem_filterMap.1 ht
    exact buildGroup_induction leaf boolean hgroup
  unfold build at h
  split at h
  · cases h
  · next t ht =>
    obtain rfl := Option.some.inj h
    exact hgroup t (by simp [ht])
  · obtain rfl := Option.some.inj h
    refine boolean _ fun c hc => ?_
    obtain ⟨t, ht, rfl⟩ := List.mem_map.1 hc
    exact hgroup t ht

end Build

/-- The leaves that are built have the boosts of fields. -/
theorem exists_field_of_mem_boosts {fields : FieldSet} {parts : List Part} {tree : Tree}
    (h : build fields parts = some tree) :
    ∀ boost ∈ tree.boosts, ∃ f ∈ fields.toList, f.boost = boost := by
  refine build_induction (motive := fun tree => ∀ boost ∈ tree.boosts, ∃ f ∈ fields.toList,
    f.boost = boost) (fun f hf a boost hboost => ?_) (fun cs ih boost hboost => ?_) h
  · exact ⟨f, hf, (List.mem_singleton.1 hboost).symm⟩
  · obtain ⟨c, hc, hboost⟩ := (Tree.mem_clauseBoosts cs boost).1 hboost
    exact ih c hc boost hboost

theorem mem_boosts_enhance (tree : Tree) (parts : List Part) (fields : FieldSet)
    (factor boost : Single) :
    boost ∈ (enhance tree parts fields factor).boosts ↔ boost ∈ tree.boosts ∨
      (parts ≠ [] ∧ isPlainWordQuery parts = true) ∧
        ∃ f ∈ fields.toList, factor * f.boost = boost := by
  unfold enhance
  split
  · next h =>
    rw [Tree.mem_boosts_any]
    simp [h, wholePhrase, Tree.boosts, eq_comm]
  · next h => simp [h]

/-! ## Products -/

namespace Magnitude

variable {F : Format} (m n : Magnitude F)

theorem value_eq_steps : m.value = m.steps * 2 ^ F.minExp := by
  have hmin := m.canonical.2.1
  rw [value, steps, Nat.cast_mul, cast_twoPow, mul_assoc, ← zpow_natCast,
    Int.toNat_of_nonneg (by omega), ← two_zpow_add, sub_add_cancel]

theorem value_mul :
    ((m.mantissa * n.mantissa * twoPow (m.exponent + n.exponent).toNat : ℕ) : ℚ) /
      (twoPow (-(m.exponent + n.exponent)).toNat : ℕ) = m.value * n.value := by
  rw [Nat.cast_mul, Nat.cast_mul, cast_twoPow, cast_twoPow, mul_div_assoc, pow_toNat_div,
    two_zpow_add, value, value]
  ring

theorem minExp_le_value (hn : n.mantissa ≠ 0) : (2 : ℚ) ^ F.minExp ≤ n.value := by
  have hsteps : (1 : ℚ) ≤ n.steps := by
    exact_mod_cast Nat.mul_pos (Nat.pos_of_ne_zero hn) (Nat.pow_pos (by decide))
  rw [value_eq_steps]
  exact le_mul_of_one_le_left (two_zpow_pos _).le hsteps

end Magnitude

/-- A factor that is greater than one, if it is finite at all. -/
theorem Magnitude.one_lt_value {negative : Bool} {m : Magnitude Format.single}
    (h : (Binary.finite negative m).le (.ofNat 1) = false) : negative = false ∧ 1 < m.value := by
  have hone : (Binary.ofNat 1 : Single) = .finite false ⟨twoPow 23, -23, by decide⟩ := by
    decide +kernel
  have hsteps : (⟨twoPow 23, -23, by decide⟩ : Magnitude Format.single).steps = twoPow 149 := by
    decide +kernel
  rw [hone, Binary.le, decide_eq_false_iff_not, not_le] at h
  unfold Binary.signedSteps at h
  rw [if_neg (by decide), hsteps] at h
  cases negative with
  | true =>
    rw [if_pos rfl] at h
    omega
  | false =>
    rw [if_neg (by decide)] at h
    refine ⟨rfl, ?_⟩
    have hcast : ((twoPow 149 : ℕ) : ℚ) < m.steps := by exact_mod_cast h
    have hunit : (2 : ℚ) ^ 149 * 2 ^ Format.single.minExp = 1 := by
      show (2 : ℚ) ^ 149 * 2 ^ (-149 : ℤ) = 1
      rw [zpow_neg]
      exact mul_inv_cancel₀ (by positivity)
    rw [cast_twoPow] at hcast
    rw [value_eq_steps, ← hunit]
    exact mul_lt_mul_of_pos_right hcast (two_zpow_pos _)

/-- A boost that fields may have. -/
def Single.Proper (x : Single) : Prop := x.isFinite = true ∧ x.isPositive = true

instance (x : Single) : Decidable x.Proper := inferInstanceAs (Decidable (_ ∧ _))

theorem Single.Proper.exists_magnitude {x : Single} (h : x.Proper) :
    ∃ n : Magnitude Format.single, x = .finite false n ∧ n.mantissa ≠ 0 := by
  obtain ⟨hfinite, hpositive⟩ := h
  cases x with
  | nan => cases hfinite
  | infinite negative => cases hfinite
  | finite negative n =>
    cases negative with
    | true => cases hpositive
    | false => exact ⟨n, rfl, by simpa [Binary.isPositive] using hpositive⟩

/-- A finite product of a proper boost with a factor that is not one at most is proper. -/
theorem Single.proper_mul_iff {x y : Single} (hx : x.le (.ofNat 1) = false) (hy : y.Proper) :
    (x * y).Proper ↔ (x * y).isFinite = true := by
  refine ⟨And.left, fun hfinite => ⟨hfinite, ?_⟩⟩
  obtain ⟨n, rfl, hn⟩ := hy.exists_magnitude
  cases x with
  | nan => cases hfinite
  | infinite negative =>
    rw [show (Binary.infinite negative * Binary.finite false n : Single) =
      .infinite (negative != false) from if_neg hn] at hfinite
    cases hfinite
  | finite negative m =>
    obtain ⟨rfl, hm⟩ := Magnitude.one_lt_value hx
    have hvalue := m.value_mul n
    have hlow : (2 : ℚ) ^ Format.single.minExp ≤ m.value * n.value :=
      (n.minExp_le_value hn).trans
        (le_mul_of_one_le_left ((two_zpow_pos _).le.trans (n.minExp_le_value hn)) hm.le)
    rw [← hvalue] at hlow
    obtain ⟨hnum, hden⟩ := ne_zero_of_div_pos ((two_zpow_pos _).trans_le hlow)
    show (Binary.mul (.finite false m) (.finite false n)).isPositive = true
    change (Binary.mul (.finite false m) (.finite false n)).isFinite = true at hfinite
    unfold Binary.mul Binary.ofFraction at hfinite ⊢
    simp only [] at hfinite ⊢
    cases hround : (Magnitude.round? (m.mantissa * n.mantissa *
        twoPow (m.exponent + n.exponent).toNat) (twoPow (-(m.exponent + n.exponent)).toNat) :
        Option (Magnitude Format.single)) with
    | none =>
      rw [hround] at hfinite
      cases hfinite
    | some y =>
      have hy := Magnitude.mantissa_ne_zero_of_round? hnum hden (by decide) hlow hround
      simpa [Binary.isPositive] using hy

/-! ## Settings without warnings -/

/-- A compiled query has the boosts of the tree that is built and, if it is a plain word query whose
ranking is improved, those of its phrases. -/
theorem Compiler.mem_boosts_compile (c : Compiler) (raw : String) {tree : Tree}
    (h : (c.compile raw).tree? = some tree) :
    ∃ built, build c.fields (c.compile raw).parts = some built ∧ ∀ boost, boost ∈ tree.boosts ↔
      boost ∈ built.boosts ∨
        (c.options.improveRanking = true ∧ isPlainWordQuery (c.compile raw).parts = true) ∧
          ∃ f ∈ c.fields.toList, c.options.phraseBoostFactor * f.boost = boost := by
  rw [c.tree?_compile] at h
  split at h
  · next himprove =>
    obtain ⟨built, hbuilt, rfl⟩ := Option.map_eq_some_iff.1 h
    have hne : (c.compile raw).parts ≠ [] := by
      intro hnil
      rw [hnil] at hbuilt
      cases hbuilt
    refine ⟨built, hbuilt, fun boost => ?_⟩
    rw [mem_boosts_enhance]
    simp [himprove, hne]
  · next himprove => exact ⟨tree, h, fun boost => by simp [himprove]⟩

theorem FieldSet.toList_of_ofList {l : List Field} {fields : FieldSet} (h : ofList l = .ok fields) :
    fields.toList = l := by
  unfold ofList at h
  split at h
  · cases h
  · split at h
    · cases h
    · rw [← Except.ok.inj h]

theorem FieldSet.ofList_toList (fields : FieldSet) : ofList fields.toList = .ok fields := by
  unfold ofList
  rw [dif_neg fields.ne_nil]
  split
  · next e hfault =>
    obtain ⟨f, hf, hfault⟩ := List.exists_of_findSome?_eq_some hfault
    rw [(Field.fault?_eq_none_iff f).2 (fields.proper f hf)] at hfault
    cases hfault
  · rfl

namespace Settings

variable {s : Settings}

/-- The boosts of the fields are those of the settings, as far as they have a field. -/
theorem forall_boosts_fieldSet {fields : FieldSet} (h : s.fieldSet = .ok fields)
    {p : Single → Prop} : (∀ f ∈ fields.toList, p f.boost) ↔
      (s.fields ≠ [] → p s.fieldBoost) ∧ (s.namedOnly = false → p s.defaultFieldBoost) := by
  have hnamed : (∀ f ∈ s.fields.map (⟨·, s.fieldBoost⟩ : String → Field), p f.boost) ↔
      (s.fields ≠ [] → p s.fieldBoost) := by
    cases s.fields with
    | nil => simp
    | cons name names => simpa using fun h _ _ => h
  have hdefault : (∀ f ∈ (if s.namedOnly then none
      else some (⟨s.defaultField, s.defaultFieldBoost⟩ : Field)).toList, p f.boost) ↔
      (s.namedOnly = false → p s.defaultFieldBoost) := by
    cases s.namedOnly <;> simp
  rw [FieldSet.toList_of_ofList h, List.forall_mem_append, hnamed, hdefault]

theorem le_phraseBoostFactor (h : s.warnings = []) (himprove : s.improveRanking = true) :
    s.phraseBoostFactor.le (.ofNat 1) = false := by
  have hranking := (List.append_eq_nil_iff.1 h).2
  unfold rankingWarnings at hranking
  rw [if_pos himprove] at hranking
  split at hranking
  · cases hranking
  · next hle => exact Bool.eq_false_iff.2 hle

/-- Under settings with neither error nor warning a compiled query has proper boosts, unless it is a
plain word query whose phrases have a product with the factor that is not finite. -/
theorem proper_boosts_iff {fields : FieldSet} (hfields : s.fieldSet = .ok fields)
    (hwarnings : s.warnings = []) (analyzer : Analyzer) (raw : String) {tree : Tree}
    (htree : (Compiler.compile ⟨analyzer, fields, s.compileOptions⟩ raw).tree? = some tree) :
    (∀ boost ∈ tree.boosts, boost.Proper) ↔
      (s.improveRanking = true ∧ isPlainWordQuery
          (Compiler.compile ⟨analyzer, fields, s.compileOptions⟩ raw).parts = true →
        (s.fields ≠ [] → (s.phraseBoostFactor * s.fieldBoost).isFinite = true) ∧
          (s.namedOnly = false →
            (s.phraseBoostFactor * s.defaultFieldBoost).isFinite = true)) := by
  obtain ⟨built, hbuilt, hboosts⟩ := Compiler.mem_boosts_compile _ raw htree
  have hfieldBoosts : ∀ f ∈ fields.toList, f.boost.Proper := fun f hf => (fields.proper f hf).2
  have hproper : ∀ boost ∈ built.boosts, boost.Proper := by
    intro boost hboost
    obtain ⟨f, hf, rfl⟩ := exists_field_of_mem_boosts hbuilt boost hboost
    exact hfieldBoosts f hf
  rw [← forall_boosts_fieldSet hfields
    (p := fun boost => (s.phraseBoostFactor * boost).isFinite = true)]
  simp only [hboosts]
  constructor
  · intro hall h f hf
    exact (hall _ (Or.inr ⟨h, f, hf, rfl⟩)).1
  · rintro hfinite boost (hboost | ⟨h, f, hf, rfl⟩)
    · exact hproper boost hboost
    · exact (Single.proper_mul_iff (le_phraseBoostFactor hwarnings h.1) (hfieldBoosts f hf)).2
        (hfinite h f hf)

end Settings

/-- The fields of the default settings. -/
def defaultFieldSet : FieldSet :=
  ⟨[⟨FieldSet.defaultName, FieldSet.defaultBoost⟩], by simp, by simp [Field.Proper]; decide⟩

theorem fieldSet_default : Settings.default.fieldSet = .ok defaultFieldSet :=
  defaultFieldSet.ofList_toList

theorem proper_boosts_default :
    Settings.default.fieldSet = .ok defaultFieldSet ∧ Settings.default.warnings = [] ∧
      ∃ tree, (Compiler.compile ⟨fun word => [word], defaultFieldSet,
          Settings.default.compileOptions⟩ "java editor").tree? = some tree ∧
        ∀ boost ∈ tree.boosts, boost.Proper := by
  have hwarnings : Settings.default.warnings = [] := by decide +kernel
  have hsome : (Compiler.compile ⟨fun word => [word], defaultFieldSet,
      Settings.default.compileOptions⟩ "java editor").tree?.isSome = true := by decide +kernel
  obtain ⟨tree, htree⟩ := Option.isSome_iff_exists.1 hsome
  have hfinite : (Settings.default.phraseBoostFactor *
      Settings.default.defaultFieldBoost).isFinite = true := by decide +kernel
  exact ⟨fieldSet_default, hwarnings, tree, htree,
    (Settings.proper_boosts_iff fieldSet_default hwarnings _ _ htree).2
      fun _ => ⟨fun hne => absurd rfl hne, fun _ => hfinite⟩⟩

/-- Default settings but for the factor, which is not a number. -/
def unratedSettings : Settings := { Settings.default with phraseBoostFactor := .nan }

theorem not_proper_boosts_unrated :
    ¬ ∀ (s : Settings) (fields : FieldSet), s.fieldSet = .ok fields → s.warnings = [] →
      ∀ (analyzer : Analyzer) (raw : String),
        ∀ tree ∈ (Compiler.compile ⟨analyzer, fields, s.compileOptions⟩ raw).tree?,
          ∀ boost ∈ tree.boosts, boost.Proper := by
  intro hproper
  have hboosts : ((Compiler.compile ⟨fun word => [word], defaultFieldSet,
      unratedSettings.compileOptions⟩ "java").tree?.map Tree.boosts) = some [.ofNat 1, .nan] := by
    decide +kernel
  obtain ⟨tree, htree, heq⟩ := Option.map_eq_some_iff.1 hboosts
  have hnan := hproper unratedSettings defaultFieldSet defaultFieldSet.ofList_toList
    (by decide +kernel) _ _ tree htree .nan (by simp [heq])
  exact absurd hnan (by decide)

end HelpQuery
