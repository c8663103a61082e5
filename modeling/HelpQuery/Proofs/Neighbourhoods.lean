import HelpQuery.Number.Shortest
import HelpQuery.Proofs.Rounding
import Mathlib.Tactic.SplitIfs

/-!
# Neighbourhoods of magnitudes

The neighbourhood of a magnitude holds the numbers that are rounded to it, and the shortest digits
are those of a point in it, the nearest one of its grid:

    (ofMagnitude x).Has (num / den) → Magnitude.round? num den = some x           (round?_eq_some)
    x.shortest tie = ⟨c, g⟩ with |c · 10 ^ g - x| least among the points of grid g   (shortest_spec)

Whether shorter digits could have been found does not matter for reading them back.
-/

namespace HelpQuery

namespace Neighbourhood

variable {s : Neighbourhood}

/-! ## Numbers of an interval -/

/-- A number lies in the interval. -/
def Has (s : Neighbourhood) (v : ℚ) : Prop :=
  if s.closed then (s.low / s.den : ℚ) ≤ v ∧ v ≤ s.high / s.den
  else (s.low / s.den : ℚ) < v ∧ v < s.high / s.den

theorem Has.between {u v w : ℚ} (hu : s.Has u) (hw : s.Has w) (huv : u ≤ v) (hvw : v ≤ w) :
    s.Has v := by
  unfold Has at *
  split at hu
  · next h =>
    rw [if_pos h] at hw ⊢
    exact ⟨hu.1.trans huv, hvw.trans hw.2⟩
  · next h =>
    rw [if_neg h] at hw ⊢
    exact ⟨hu.1.trans_le huv, hvw.trans_lt hw.2⟩

theorem contains_iff (hden : s.den ≠ 0) (c : ℕ) (g : ℤ) :
    s.contains c g = true ↔ s.Has (c * 10 ^ g) := by
  have hd : (0 : ℚ) < s.den := by positivity
  have hp : (0 : ℚ) < 10 ^ (-g).toNat := by positivity
  have hpoint : (c * 10 ^ g : ℚ) = c * 10 ^ g.toNat / 10 ^ (-g).toNat := by
    rw [mul_div_assoc, pow_toNat_div]
  unfold contains Has
  simp only []
  split
  · rw [Bool.and_eq_true, decide_eq_true_iff, decide_eq_true_iff, hpoint, div_le_div_iff₀ hd hp,
      div_le_div_iff₀ hp hd, ← cast_tenPow, ← cast_tenPow]
    norm_cast
  · rw [Bool.and_eq_true, decide_eq_true_iff, decide_eq_true_iff, hpoint, div_lt_div_iff₀ hd hp,
      div_lt_div_iff₀ hp hd, ← cast_tenPow, ← cast_tenPow]
    norm_cast

/-! ## Points of a grid -/

/-- The point that is taken of a grid is one of the two around the centre; it lies in the interval,
and the other one does not or is no nearer. -/
theorem pointOn?_cases {tie : TieBreak} {g : Int} {c : Nat} (h : s.pointOn? tie g = some c) :
    let num := s.centre * tenPow (-g).toNat
    let den := s.den * tenPow g.toNat
    s.contains c g = true ∧
      (c = num / den ∧ (s.contains (num / den + 1) g = true → 2 * (num % den) ≤ den) ∨
        c = num / den + 1 ∧ (s.contains (num / den) g = true → den ≤ 2 * (num % den))) := by
  unfold pointOn? at h
  simp only [] at h ⊢
  generalize s.centre * tenPow (-g).toNat % (s.den * tenPow g.toNat) = r at h ⊢
  generalize s.centre * tenPow (-g).toNat / (s.den * tenPow g.toNat) = q at h ⊢
  split_ifs at h with hboth h₁ h₂ hlower hupper
  · obtain rfl : q = c := Option.some.inj h
    exact ⟨(Bool.and_eq_true_iff.1 hboth).1, Or.inl ⟨rfl, fun _ => h₁.le⟩⟩
  · obtain rfl : q + 1 = c := Option.some.inj h
    exact ⟨(Bool.and_eq_true_iff.1 hboth).2, Or.inr ⟨rfl, fun _ => h₂.le⟩⟩
  · obtain ⟨hl, hu⟩ := Bool.and_eq_true_iff.1 hboth
    cases tie with
    | up =>
      obtain rfl : q + 1 = c := Option.some.inj h
      exact ⟨hu, Or.inr ⟨rfl, fun _ => not_lt.1 h₁⟩⟩
    | toEven =>
      obtain rfl : q + q % 2 = c := Option.some.inj h
      rcases Nat.mod_two_eq_zero_or_one q with hq | hq
      · rw [hq]
        exact ⟨hl, Or.inl ⟨rfl, fun _ => not_lt.1 h₂⟩⟩
      · rw [hq]
        exact ⟨hu, Or.inr ⟨rfl, fun _ => not_lt.1 h₁⟩⟩
  · obtain rfl : q = c := Option.some.inj h
    refine ⟨hlower, Or.inl ⟨rfl, fun hupper => ?_⟩⟩
    rw [hlower, hupper] at hboth
    exact absurd rfl hboth
  · obtain rfl : q + 1 = c := Option.some.inj h
    exact ⟨hupper, Or.inr ⟨rfl, fun h => absurd h hlower⟩⟩

/-- The point that is taken of a grid lies in the interval. -/
theorem contains_of_pointOn? {tie : TieBreak} {g : Int} {c : Nat}
    (h : s.pointOn? tie g = some c) : s.contains c g = true :=
  (pointOn?_cases h).1

/-- The centre lies where its fraction says on the scale of a grid. -/
theorem scaled_centre (g : ℤ) :
    ((s.centre * tenPow (-g).toNat : ℕ) : ℚ) / (s.den * tenPow g.toNat : ℕ) =
      s.centre / s.den / 10 ^ g := by
  have hpow : (10 : ℚ) ^ (-g).toNat / 10 ^ g.toNat = (10 ^ g)⁻¹ := by
    rw [← zpow_neg, ← pow_toNat_div (-g), neg_neg]
  rw [Nat.cast_mul, Nat.cast_mul, cast_tenPow, cast_tenPow, mul_div_mul_comm, hpow,
    ← div_eq_mul_inv]

/-- Of the two whole numbers around a value, one that is no farther than the other is nearest to it
among all those on whose side it was preferred. -/
theorem abs_sub_le_of_cases {c d q : ℕ} {f : ℚ} (hge : 0 ≤ f) (hlt : f < 1)
    (h : (c = q ∧ (q + 1 ≤ d → f ≤ 1 / 2)) ∨ (c = q + 1 ∧ (d ≤ q → 1 / 2 ≤ f))) :
    |(c : ℚ) - (q + f)| ≤ |(d : ℚ) - (q + f)| := by
  rcases Nat.lt_or_ge q d with hside | hside
  · have hcast : ((q + 1 : ℕ) : ℚ) ≤ d := by exact_mod_cast hside
    push_cast at hcast
    rw [abs_of_nonneg (by linarith : (0 : ℚ) ≤ d - (q + f))]
    rcases h with ⟨rfl, hhalf⟩ | ⟨rfl, -⟩
    · rw [abs_of_nonpos (by linarith)]
      linarith [hhalf hside]
    · push_cast
      rw [abs_of_nonneg (by linarith)]
      linarith
  · have hcast : (d : ℚ) ≤ q := by exact_mod_cast hside
    rw [abs_of_nonpos (by linarith : (d : ℚ) - (q + f) ≤ 0)]
    rcases h with ⟨rfl, -⟩ | ⟨rfl, hhalf⟩
    · rw [abs_of_nonpos (by linarith)]
      linarith
    · push_cast
      rw [abs_of_nonneg (by linarith)]
      linarith [hhalf hside]

/-- The centre is `q + r / k` steps of a grid. -/
theorem centre_eq (hden : s.den ≠ 0) (g : ℤ) :
    let num := s.centre * tenPow (-g).toNat
    let k := s.den * tenPow g.toNat
    (s.centre / s.den : ℚ) = ((num / k : ℕ) + (num % k : ℕ) / k) * 10 ^ g := by
  have hstep : (0 : ℚ) < 10 ^ g := by positivity
  have hscaled := scaled_centre (s := s) g
  have hk : s.den * tenPow g.toNat ≠ 0 := Nat.mul_ne_zero hden (Nat.pow_pos (by decide)).ne'
  simp only []
  generalize s.centre * tenPow (-g).toNat = num at hscaled ⊢
  generalize s.den * tenPow g.toNat = k at hscaled hk ⊢
  have hnum : (num : ℚ) = k * (num / k : ℕ) + (num % k : ℕ) := by
    exact_mod_cast (Nat.div_add_mod num k).symm
  rw [← div_eq_iff hstep.ne', ← hscaled]
  conv_lhs => rw [hnum]
  field_simp

/-- The point that is taken of a grid is the nearest to the centre of those in the interval. -/
theorem nearest_of_pointOn? (hden : s.den ≠ 0) (hcentre : s.Has (s.centre / s.den))
    {tie : TieBreak} {g : ℤ} {c : ℕ} (h : s.pointOn? tie g = some c) {d : ℕ}
    (hd : s.Has (d * 10 ^ g)) :
    |(c * 10 ^ g : ℚ) - s.centre / s.den| ≤ |(d * 10 ^ g : ℚ) - s.centre / s.den| := by
  obtain ⟨-, hcases⟩ := pointOn?_cases h
  have hsplit := centre_eq hden g
  have hk : 0 < s.den * tenPow g.toNat :=
    Nat.mul_pos (Nat.pos_of_ne_zero hden) (Nat.pow_pos (by decide))
  have hstep : (0 : ℚ) < 10 ^ g := by positivity
  simp only [] at hcases hsplit
  generalize s.centre * tenPow (-g).toNat = num at hcases hsplit
  generalize s.den * tenPow g.toNat = k at hcases hsplit hk
  have hr : num % k < k := Nat.mod_lt num hk
  generalize num / k = q at hcases hsplit
  generalize num % k = r at hcases hsplit hr
  have hkq : (0 : ℚ) < k := by exact_mod_cast hk
  have hge : (0 : ℚ) ≤ r / k := by positivity
  have hlt : (r / k : ℚ) < 1 := by
    rw [div_lt_one hkq]
    exact_mod_cast hr
  -- A point on the other side of the centre shows that its neighbour there is in the interval.
  have hnearest : (c = q ∧ (q + 1 ≤ d → (r / k : ℚ) ≤ 1 / 2)) ∨
      (c = q + 1 ∧ (d ≤ q → (1 / 2 : ℚ) ≤ r / k)) := by
    refine hcases.imp (And.imp_right fun hhalf hle => ?_) (And.imp_right fun hhalf hle => ?_)
    · have hcast : ((q + 1 : ℕ) : ℚ) ≤ d := by exact_mod_cast hle
      have hin : s.contains (q + 1) g = true := by
        rw [contains_iff hden]
        refine hcentre.between hd ?_ (mul_le_mul_of_nonneg_right hcast hstep.le)
        rw [hsplit]
        exact mul_le_mul_of_nonneg_right (by push_cast; linarith) hstep.le
      have htwice : (2 * r : ℚ) ≤ k := by exact_mod_cast hhalf hin
      rw [div_le_iff₀ hkq]
      linarith
    · have hcast : (d : ℚ) ≤ q := by exact_mod_cast hle
      have hin : s.contains q g = true := by
        rw [contains_iff hden]
        refine hd.between hcentre (mul_le_mul_of_nonneg_right hcast hstep.le) ?_
        rw [hsplit]
        exact mul_le_mul_of_nonneg_right (by linarith) hstep.le
      have htwice : (k : ℚ) ≤ 2 * r := by exact_mod_cast hhalf hin
      rw [le_div_iff₀ hkq]
      linarith
  have hdist : ∀ n : ℕ, |(n * 10 ^ g : ℚ) - s.centre / s.den| =
      |(n : ℚ) - (q + r / k)| * 10 ^ g := by
    intro n
    rw [hsplit, ← sub_mul, abs_mul, abs_of_pos hstep]
  rw [hdist, hdist]
  exact mul_le_mul_of_nonneg_right (abs_sub_le_of_cases hge hlt hnearest) hstep.le

/-- A grid that the centre is a point of has a point in the interval. -/
theorem exists_pointOn? (hden : s.den ≠ 0) (hcentre : s.Has (s.centre / s.den)) (tie : TieBreak)
    {g : ℤ} {n : ℕ} (hn : (s.centre / s.den : ℚ) = n * 10 ^ g) :
    ∃ c, s.pointOn? tie g = some c := by
  have hden' : s.den * tenPow g.toNat ≠ 0 := Nat.mul_ne_zero hden (Nat.pow_pos (by decide)).ne'
  have hexact : s.centre * tenPow (-g).toNat = n * (s.den * tenPow g.toNat) := by
    have hscaled := scaled_centre (s := s) g
    rw [hn, mul_div_cancel_right₀ _ (by positivity : (10 : ℚ) ^ g ≠ 0),
      div_eq_iff (by exact_mod_cast hden')] at hscaled
    exact_mod_cast hscaled
  have hlower : s.contains n g = true := (contains_iff hden n g).2 (hn ▸ hcentre)
  unfold pointOn?
  simp only [hexact, Nat.mul_div_cancel _ (Nat.pos_of_ne_zero hden'), hlower, Bool.true_and]
  split_ifs
  · exact ⟨_, rfl⟩
  · exact ⟨_, rfl⟩
  · cases tie <;> exact ⟨_, rfl⟩
  · exact ⟨_, rfl⟩

/-- The search ends at a grid with a point, if the last grid has one. -/
theorem coarsest_spec (tie : TieBreak) (steps : ℕ) :
    ∀ {g : ℤ}, (∃ c, s.pointOn? tie (g - steps) = some c) →
      ∃ c g', s.coarsest tie steps g = ⟨c, g'⟩ ∧ s.pointOn? tie g' = some c ∧ g - steps ≤ g' := by
  induction steps with
  | zero =>
    rintro g ⟨c, hc⟩
    rw [Nat.cast_zero, sub_zero] at hc ⊢
    exact ⟨c, g, by rw [coarsest, hc, Option.getD_some], hc, le_rfl⟩
  | succ steps ih =>
    intro g hlast
    rw [coarsest]
    cases hpoint : s.pointOn? tie g with
    | some c => exact ⟨c, g, rfl, hpoint, by omega⟩
    | none =>
      rw [show g - (steps + 1 : ℕ) = g - 1 - steps by omega] at hlast
      obtain ⟨c, g', heq, hc, hle⟩ := ih hlast
      exact ⟨c, g', heq, hc, by omega⟩

end Neighbourhood

/-! ## The numbers that are rounded to a magnitude -/

namespace Magnitude

variable {F : Format} (x : Magnitude F)

/-- The distance to the lower end of the neighbourhood, in steps: half as far below a power of
two. -/
def below : ℚ :=
  if x.mantissa = twoPow (F.precision - 1) ∧ F.minExp < x.exponent then 1 / 4 else 1 / 2

/-- The ends of the neighbourhood. -/
def lowEnd : ℚ := (x.mantissa - x.below) * 2 ^ x.exponent

def highEnd : ℚ := (x.mantissa + 1 / 2) * 2 ^ x.exponent

theorem below_le : x.below ≤ 1 / 2 := by
  unfold below
  split <;> norm_num

theorem below_pos : 0 < x.below := by
  unfold below
  split <;> norm_num

theorem value_pos (hx : x.mantissa ≠ 0) : 0 < x.value :=
  mul_pos (by positivity) (two_zpow_pos _)

/-- The interval's ends are whole numbers of quarters of a step. -/
theorem quarters_div_den (k : ℕ) :
    (k * twoPow (x.exponent - 2).toNat : ℕ) / ((Neighbourhood.ofMagnitude x).den : ℚ) =
      k / 4 * 2 ^ x.exponent := by
  have hpow := pow_toNat_div (b := 2) (x.exponent - 2)
  rw [neg_sub, zpow_sub₀ (by norm_num)] at hpow
  show _ / ((twoPow (2 - x.exponent).toNat : ℕ) : ℚ) = _
  rw [Nat.cast_mul, cast_twoPow, cast_twoPow, mul_div_assoc, hpow]
  norm_num
  ring

theorem den_ofMagnitude : (Neighbourhood.ofMagnitude x).den ≠ 0 :=
  (Nat.pow_pos (by decide) : 0 < twoPow (2 - x.exponent).toNat).ne'

theorem centre_ofMagnitude :
    ((Neighbourhood.ofMagnitude x).centre : ℚ) / (Neighbourhood.ofMagnitude x).den = x.value := by
  refine (quarters_div_den x (4 * x.mantissa)).trans ?_
  rw [value]
  push_cast
  ring

/-- The ends belong to the neighbourhood of an even mantissa. -/
theorem has_ofMagnitude (hx : x.mantissa ≠ 0) (v : ℚ) :
    (Neighbourhood.ofMagnitude x).Has v ↔
      if x.mantissa % 2 = 0 then x.lowEnd ≤ v ∧ v ≤ x.highEnd
      else x.lowEnd < v ∧ v < x.highEnd := by
  have hlow : ((Neighbourhood.ofMagnitude x).low : ℚ) / (Neighbourhood.ofMagnitude x).den =
      x.lowEnd := by
    refine (quarters_div_den x _).trans ?_
    unfold lowEnd below
    split
    · rw [Nat.cast_sub (by omega)]
      push_cast
      ring
    · rw [Nat.cast_sub (by omega)]
      push_cast
      ring
  have hhigh : ((Neighbourhood.ofMagnitude x).high : ℚ) / (Neighbourhood.ofMagnitude x).den =
      x.highEnd := by
    refine (quarters_div_den x (4 * x.mantissa + 2)).trans ?_
    unfold highEnd
    push_cast
    ring
  have hclosed : (Neighbourhood.ofMagnitude x).closed = true ↔ x.mantissa % 2 = 0 := beq_iff_eq
  unfold Neighbourhood.Has
  simp only [hlow, hhigh, hclosed]

/-- The ends are multiples of a quarter of a step. -/
theorem exists_lowEnd_eq (hx : x.mantissa ≠ 0) :
    ∃ k : ℕ, x.lowEnd = k * 2 ^ (x.exponent - 2) := by
  have hquarter : (2 : ℚ) ^ x.exponent = 2 ^ 2 * 2 ^ (x.exponent - 2) := two_zpow_eq_mul 2 _
  unfold lowEnd below
  split
  · refine ⟨4 * x.mantissa - 1, ?_⟩
    rw [hquarter, Nat.cast_sub (by omega)]
    push_cast
    ring
  · refine ⟨4 * x.mantissa - 2, ?_⟩
    rw [hquarter, Nat.cast_sub (by omega)]
    push_cast
    ring

theorem highEnd_eq : x.highEnd = (4 * x.mantissa + 2 : ℕ) * 2 ^ (x.exponent - 2) := by
  rw [highEnd, two_zpow_eq_mul 2 x.exponent]
  push_cast
  ring

theorem has_value (hx : x.mantissa ≠ 0) : (Neighbourhood.ofMagnitude x).Has x.value := by
  have hstep := two_zpow_pos x.exponent
  have hlow : x.lowEnd < x.value :=
    mul_lt_mul_of_pos_right (by linarith [x.below_pos]) hstep
  have hhigh : x.value < x.highEnd :=
    mul_lt_mul_of_pos_right (by linarith) hstep
  rw [has_ofMagnitude x hx]
  split
  · exact ⟨hlow.le, hhigh.le⟩
  · exact ⟨hlow, hhigh⟩

section Numbers

variable {x} (hx : x.mantissa ≠ 0) {v : ℚ} (h : (Neighbourhood.ofMagnitude x).Has v)

include hx h

/-- The numbers of the neighbourhood lie between its ends. -/
theorem bounds_of_has : x.lowEnd ≤ v ∧ v ≤ x.highEnd := by
  rw [has_ofMagnitude x hx] at h
  split at h
  · exact h
  · exact ⟨h.1.le, h.2.le⟩

theorem pos_of_has : 0 < v := by
  have hone : (1 : ℚ) ≤ x.mantissa := by exact_mod_cast Nat.one_le_iff_ne_zero.2 hx
  have hlow : 0 < x.lowEnd := mul_pos (by linarith [x.below_le]) (two_zpow_pos x.exponent)
  exact hlow.trans_le (bounds_of_has hx h).1

theorem lt_of_has : v < 2 ^ (x.exponent + F.precision) := by
  have hbits : (x.mantissa : ℚ) + 1 ≤ 2 ^ F.precision := by
    rw [← cast_twoPow]
    exact_mod_cast x.canonical.1
  have hhigh : x.highEnd < 2 ^ F.precision * 2 ^ x.exponent :=
    mul_lt_mul_of_pos_right (by linarith) (two_zpow_pos x.exponent)
  rw [add_comm, two_zpow_add, zpow_natCast]
  exact (bounds_of_has hx h).2.trans_lt hhigh

/-- The mantissa is the whole number nearest to a number of the neighbourhood; the ends belong to it
only where they are tied to an even one. -/
theorem nearest_of_has : Nearest (v / 2 ^ x.exponent) x.mantissa := by
  have hstep := two_zpow_pos x.exponent
  obtain ⟨hlow, hhigh⟩ := bounds_of_has hx h
  refine ⟨?_, ?_, fun hends => ?_⟩
  · linarith [(le_div_iff₀ hstep).2 hlow, x.below_le]
  · linarith [(div_le_iff₀ hstep).2 hhigh]
  · by_contra hodd
    rw [has_ofMagnitude x hx, if_neg hodd] at h
    have hlow' := (lt_div_iff₀ hstep).2 h.1
    have hhigh' := (div_lt_iff₀ hstep).2 h.2
    rcases hends with hends | hends <;> linarith [x.below_le]

/-- Only the least mantissa has numbers of its neighbourhood below its leading bit. -/
theorem mantissa_eq_of_has (hleast : x.exponent ≠ F.minExp)
    (hless : v < 2 ^ (F.precision - 1) * 2 ^ x.exponent) :
    x.mantissa = twoPow (F.precision - 1) := by
  refine le_antisymm (Nat.lt_succ_iff.1 ?_) (x.canonical.2.2.2.resolve_left hleast)
  have hlt : (x.mantissa - x.below : ℚ) < 2 ^ (F.precision - 1) :=
    lt_of_mul_lt_mul_right ((bounds_of_has hx h).1.trans_lt hless) (two_zpow_pos x.exponent).le
  have hcast : (x.mantissa : ℚ) < (twoPow (F.precision - 1) + 1 : ℕ) := by
    push_cast
    rw [cast_twoPow]
    linarith [x.below_le]
  exact_mod_cast hcast

/-- Rounding to steps that are fine enough stays between the ends. -/
theorem bounds_of_nearest {e : ℤ} (he : e ≤ x.exponent - 2) {m : ℕ}
    (hnearest : Nearest (v / 2 ^ e) m) :
    x.lowEnd ≤ m * 2 ^ e ∧ (m * 2 ^ e : ℚ) ≤ x.highEnd := by
  obtain ⟨hlow, hhigh⟩ := bounds_of_has hx h
  obtain ⟨k, hk⟩ := x.exists_lowEnd_eq hx
  rw [hk] at hlow ⊢
  rw [highEnd_eq] at hhigh ⊢
  exact ⟨hnearest.mul_le he hlow, hnearest.le_mul he hhigh⟩

end Numbers

/-- A number of the neighbourhood is rounded to the magnitude. -/
theorem round?_eq_some (hF : 1 < F.precision) (hx : x.mantissa ≠ 0) {num den : ℕ}
    (h : (Neighbourhood.ofMagnitude x).Has (num / den)) : round? num den = some x := by
  have hmin := x.canonical.2.1
  have htop := lt_of_has hx h
  obtain ⟨hnum, hden⟩ := ne_zero_of_div_pos (pos_of_has hx h)
  by_cases hfull : x.exponent = F.minExp ∨
      (2 : ℚ) ^ (x.exponent + (F.precision - 1 : ℕ)) ≤ num / den
  · -- The steps are those of the magnitude.
    exact round?_of_nearest hnum hden (stepExponent_eq hnum hden (by omega) hmin hfull htop)
      (nearest_of_has hx h)
  · -- The number is below a power of two, in steps half as wide, and is carried up to it.
    obtain ⟨hleast, hless⟩ := not_or.1 hfull
    rw [not_le, add_comm, two_zpow_add, zpow_natCast] at hless
    have hmantissa := mantissa_eq_of_has hx h hleast hless
    have hbelow : x.below = 1 / 4 := if_pos ⟨hmantissa, by omega⟩
    have hcast : (x.mantissa : ℚ) = 2 ^ (F.precision - 1) := by
      rw [hmantissa, cast_twoPow]
    have hhalf : (2 : ℚ) ^ x.exponent = 2 ^ 1 * 2 ^ (x.exponent - 1) := two_zpow_eq_mul 1 _
    have hdouble : (2 : ℚ) ^ F.precision = 2 * 2 ^ (F.precision - 1) := by
      rw [← pow_succ', Nat.sub_add_cancel (by omega)]
    have hstep := two_zpow_pos (x.exponent - 1)
    have hlow := (bounds_of_has hx h).1
    rw [lowEnd, hbelow, hcast, hhalf] at hlow
    rw [hhalf] at hless
    have hexponent : stepExponent F num den = x.exponent - 1 := by
      refine stepExponent_eq hnum hden (by omega) (by omega) (Or.inr ?_) ?_
      · rw [add_comm, two_zpow_add, zpow_natCast]
        have hquarter : (2 : ℚ) ^ (F.precision - 1) ≤ (2 ^ (F.precision - 1) - 1 / 4) * 2 := by
          linarith [one_le_pow₀ (by norm_num : (1 : ℚ) ≤ 2) (n := F.precision - 1)]
        linarith [mul_le_mul_of_nonneg_right hquarter hstep.le]
      · rw [add_comm, two_zpow_add, zpow_natCast, hdouble]
        linarith
    refine round?_of_carry hnum hden (by omega) hexponent hmantissa ?_ ?_
    · rw [le_div_iff₀ hstep, hdouble]
      linarith
    · rw [div_lt_iff₀ hstep, hdouble]
      linarith

/-- A magnitude is a point of the last grid that is searched. -/
theorem exists_value_eq : ∃ n : ℕ, x.value = n * 10 ^ min 0 x.exponent := by
  rcases le_total 0 x.exponent with hexp | hexp
  · obtain ⟨k, hk⟩ := Int.eq_ofNat_of_zero_le hexp
    refine ⟨x.mantissa * 2 ^ k, ?_⟩
    rw [min_eq_left hexp, value, hk]
    push_cast
    rw [zpow_natCast, mul_one]
  · obtain ⟨k, hk⟩ := Int.exists_eq_neg_ofNat hexp
    refine ⟨x.mantissa * 5 ^ k, ?_⟩
    rw [min_eq_right hexp, value, hk, zpow_neg, zpow_neg, zpow_natCast, zpow_natCast,
      (by norm_num : (10 : ℚ) = 5 * 2), mul_pow]
    push_cast
    field_simp

/-- The shortest digits are a point of the neighbourhood on a grid that is searched. -/
theorem shortest_spec (hx : x.mantissa ≠ 0) (tie : TieBreak) :
    ∃ c g, x.shortest tie = ⟨c, g⟩ ∧
      (Neighbourhood.ofMagnitude x).pointOn? tie g = some c ∧ min 0 x.exponent ≤ g := by
  obtain ⟨n, hn⟩ := x.exists_value_eq
  have hlast : ∃ c, (Neighbourhood.ofMagnitude x).pointOn? tie (min 0 x.exponent) = some c := by
    rw [← centre_ofMagnitude] at hn
    refine Neighbourhood.exists_pointOn? x.den_ofMagnitude ?_ tie hn
    rw [centre_ofMagnitude]
    exact x.has_value hx
  have hsteps : max 0 (x.exponent + F.precision) -
      (max 0 (x.exponent + F.precision) - min 0 x.exponent).toNat = min 0 x.exponent := by
    omega
  rw [← hsteps] at hlast
  obtain ⟨c, g, heq, hc, hle⟩ := Neighbourhood.coarsest_spec tie _ hlast
  exact ⟨c, g, (if_neg hx).trans heq, hc, hsteps ▸ hle⟩

theorem shortest_exponent_ge (hx : x.mantissa ≠ 0) (tie : TieBreak) :
    min 0 x.exponent ≤ (x.shortest tie).exponent := by
  obtain ⟨c, g, heq, -, hle⟩ := x.shortest_spec hx tie
  rw [heq]
  exact hle

theorem shortest_digits_ne_zero (hx : x.mantissa ≠ 0) (tie : TieBreak) :
    (x.shortest tie).digits ≠ 0 := by
  obtain ⟨c, g, heq, hpoint, -⟩ := x.shortest_spec hx tie
  have hc : (Neighbourhood.ofMagnitude x).contains c g = true :=
    Neighbourhood.contains_of_pointOn? hpoint
  rw [Neighbourhood.contains_iff x.den_ofMagnitude] at hc
  have hpos := pos_of_has hx hc
  rw [heq]
  rintro rfl
  rw [Nat.cast_zero, zero_mul] at hpos
  exact absurd hpos (lt_irrefl 0)

/-- Printed digits that are zero stand at no place in front of the point. -/
theorem shortest_exponent (tie : TieBreak) (h : (x.shortest tie).digits = 0) :
    (x.shortest tie).exponent ≤ 0 := by
  by_cases hx : x.mantissa = 0
  · exact (congrArg Digits.exponent (if_pos hx)).le
  · exact absurd h (x.shortest_digits_ne_zero hx tie)

end Magnitude

end HelpQuery
