import HelpQuery.Proofs.Approximation
import HelpQuery.Proofs.Neighbourhoods

/-!
# Numbers that are rounded twice

A boost that is written in its shortest digits is read as a number of 64 bits and then rounded to
32.  The first rounding stays between the ends of the boost's neighbourhood, which are numbers of 64
bits themselves, but it may reach an end that does not belong to the neighbourhood.  Shortest digits
lie too far from the ends for that, with a single exception:

    x ≠ .unsteady → num / den = c * 10 ^ g →
      ∃ y, ofFraction s num den = .finite s y ∧ (.finite s y).convert .single = .finite s x

where `c` and `g` are the shortest digits of `x` (exists_convert).
-/

namespace HelpQuery

namespace Magnitude

/-! ## Odd mantissas -/

section Odd

variable {F : Format} {x : Magnitude F} (hF : 1 < F.precision) (hodd : x.mantissa % 2 = 1)

include hF hodd

/-- A mantissa that is odd has its neighbours at equal distances. -/
theorem below_of_odd : x.below = 1 / 2 := by
  refine if_neg fun hpow => ?_
  have heven : twoPow (F.precision - 1) % 2 = 0 :=
    Nat.mod_eq_zero_of_dvd (dvd_pow_self 2 (by omega))
  omega

/-- The ends half a step away do not belong to a mantissa that is odd. -/
theorem has_ofMagnitude_of_odd (v : ℚ) :
    (Neighbourhood.ofMagnitude x).Has v ↔ |v - x.value| < 2 ^ x.exponent / 2 := by
  rw [has_ofMagnitude x (by omega), if_neg (by omega), lowEnd, highEnd, below_of_odd hF hodd,
    abs_lt, value]
  constructor
  · rintro ⟨hlow, hhigh⟩
    constructor <;> linarith
  · rintro ⟨hlow, hhigh⟩
    constructor <;> linarith

/-- Shortest digits are at most half the spacing of their grid away. -/
theorem two_mul_abs_le_of_pointOn? {tie : TieBreak} {g : ℤ} {c : ℕ}
    (h : (Neighbourhood.ofMagnitude x).pointOn? tie g = some c) :
    2 * |(c * 10 ^ g : ℚ) - x.value| ≤ 10 ^ g := by
  have hx : x.mantissa ≠ 0 := by omega
  have hstep : (0 : ℚ) < 10 ^ g := by positivity
  have hin := (Neighbourhood.contains_iff x.den_ofMagnitude c g).1
    (Neighbourhood.contains_of_pointOn? h)
  rw [has_ofMagnitude_of_odd hF hodd] at hin
  -- A point of the grid that is nearer would have been taken.
  have hnearest : ∀ d : ℕ, |(d * 10 ^ g : ℚ) - x.value| < |(c * 10 ^ g : ℚ) - x.value| → False := by
    intro d hd
    have hle := Neighbourhood.nearest_of_pointOn? x.den_ofMagnitude
      (x.centre_ofMagnitude.symm ▸ x.has_value hx) h (d := d)
      ((has_ofMagnitude_of_odd hF hodd _).2 (hd.trans hin))
    rw [centre_ofMagnitude] at hle
    exact absurd hd (not_lt.2 hle)
  by_contra hfar
  rcases le_total x.value (c * 10 ^ g) with hside | hside
  · rw [abs_of_nonneg (by linarith)] at hfar hnearest
    have hc : c ≠ 0 := by
      rintro rfl
      rw [Nat.cast_zero, zero_mul] at hside
      linarith [x.value_pos hx]
    refine hnearest (c - 1) (abs_lt.2 ?_)
    rw [Nat.cast_sub (Nat.one_le_iff_ne_zero.2 hc), Nat.cast_one, sub_mul]
    constructor <;> linarith
  · rw [abs_of_nonpos (by linarith)] at hfar hnearest
    refine hnearest (c + 1) (abs_lt.2 ?_)
    rw [Nat.cast_add, Nat.cast_one, add_mul]
    constructor <;> linarith

omit hF hodd in
/-- An odd number of half steps next to the mantissa is half a step away. -/
theorem half_steps_eq {n : ℤ} (hn : n = 2 * x.mantissa - 1 ∨ n = 2 * x.mantissa + 1) :
    n * 2 ^ (x.exponent - 1) = x.value - 2 ^ x.exponent / 2 ∨
      n * 2 ^ (x.exponent - 1) = x.value + 2 ^ x.exponent / 2 := by
  have hhalf : (2 : ℚ) ^ x.exponent = 2 ^ 1 * 2 ^ (x.exponent - 1) := two_zpow_eq_mul 1 _
  rw [value, hhalf]
  rcases hn with rfl | rfl
  · left
    push_cast
    ring
  · right
    push_cast
    ring

/-- Shortest digits near to an end are of a grid that is hardly finer than the steps. -/
theorem le_pow_of_near_end {tie : TieBreak} {g : ℤ} {c : ℕ}
    (h : (Neighbourhood.ofMagnitude x).pointOn? tie g = some c) {n : ℤ}
    (hn : n = 2 * x.mantissa - 1 ∨ n = 2 * x.mantissa + 1)
    (hnear : |(c * 10 ^ g : ℚ) - n * 2 ^ (x.exponent - 1)| ≤ 2 ^ (x.exponent - 30)) :
    (2 : ℚ) ^ x.exponent * (1 - 1 / 2 ^ 29) ≤ 10 ^ g := by
  have hspacing := two_mul_abs_le_of_pointOn? hF hodd h
  have hstep : (2 : ℚ) ^ x.exponent = 2 ^ 30 * 2 ^ (x.exponent - 30) := two_zpow_eq_mul 30 _
  rw [abs_le] at hnear
  refine le_trans ?_ hspacing
  rcases half_steps_eq hn with hend | hend
  · linarith [neg_le_abs (c * 10 ^ g - x.value)]
  · linarith [le_abs_self (c * 10 ^ g - x.value)]

end Odd

/-! ## Near misses -/

/-- The units in which a grid and half a step are whole numbers are common to both. -/
theorem exists_unit (e : ℤ) : ∃ u : ℚ, 0 < u ∧ gridUnits e = 10 ^ gridExponent e * u ∧
    halfStepUnits e = 2 ^ (e - 1) * u := by
  refine ⟨10 ^ (-gridExponent e).toNat * 2 ^ (-(e - 1)).toNat, by positivity, ?_, ?_⟩
  · rw [← pow_toNat_div (b := 10), gridUnits, neg_sub, Nat.cast_mul, cast_tenPow, cast_twoPow]
    field_simp
  · rw [← pow_toNat_div (b := 2), halfStepUnits, Nat.cast_mul, cast_tenPow, cast_twoPow]
    field_simp

/-- A power of ten that is not much less than a step is on the grid of its exponent. -/
theorem gridExponent_le {e g : ℤ} (hmin : -149 ≤ e) (hmax : e < 105)
    (h : (2 : ℚ) ^ e * (1 - 1 / 2 ^ 29) ≤ 10 ^ g) : gridExponent e ≤ g := by
  obtain ⟨u, hu, hgrid, hhalf⟩ := exists_unit e
  have hrow : (2 ^ 29 * gridUnits e + 20 * halfStepUnits e : ℚ) <
      2 ^ 29 * (20 * halfStepUnits e) := by
    exact_mod_cast gridUnits_lt e hmin hmax
  have hpower : (2 ^ 29 * 10 ^ gridExponent e + 10 * 2 ^ e : ℚ) < 2 ^ 29 * (10 * 2 ^ e) := by
    refine lt_of_mul_lt_mul_right ?_ hu.le
    rw [hgrid, hhalf, zpow_sub_one₀ (by norm_num)] at hrow
    linarith
  by_contra hlt
  have hle : (10 : ℚ) ^ (g + 1) ≤ 10 ^ gridExponent e :=
    zpow_le_zpow_right₀ (by norm_num) (by omega)
  rw [zpow_add_one₀ (by norm_num)] at hle
  linarith

/-- Digits on the grid of an exponent that come near to half a step make a near miss. -/
theorem nearMiss_of_abs_le {e g n : ℤ} {c : ℕ} (hg : gridExponent e ≤ g) (hc : c ≠ 0)
    (hlt : (c * 10 ^ g : ℚ) < 2 ^ (e + 24)) (hne : (c * 10 ^ g : ℚ) ≠ n * 2 ^ (e - 1))
    (hnear : |(c * 10 ^ g : ℚ) - n * 2 ^ (e - 1)| ≤ 2 ^ (e - 30)) :
    NearMiss e (c * 10 ^ (g - gridExponent e).toNat) n := by
  obtain ⟨u, hu, hgrid, hhalf⟩ := exists_unit e
  have hdigits : ((c * 10 ^ (g - gridExponent e).toNat * gridUnits e : ℤ) : ℚ) =
      c * 10 ^ g * u := by
    have hpow : (10 : ℚ) ^ (g - gridExponent e).toNat * 10 ^ gridExponent e = 10 ^ g := by
      rw [← zpow_natCast, Int.toNat_of_nonneg (by omega), ← zpow_add₀ (by norm_num), sub_add_cancel]
    push_cast
    rw [hgrid, ← hpow]
    ring
  have hend : ((n * halfStepUnits e : ℤ) : ℚ) = n * 2 ^ (e - 1) * u := by
    push_cast
    rw [hhalf]
    ring
  refine ⟨by positivity, ?_, fun heq => ?_, ?_⟩
  · have hpow : (2 : ℚ) ^ (e + 24) = 2 ^ 25 * 2 ^ (e - 1) := by
      rw [two_zpow_eq_mul 25 (e + 24), show e + 24 - (25 : ℕ) = e - 1 by omega]
    rw [← Int.cast_lt (R := ℚ), hdigits]
    push_cast
    rw [hhalf, ← mul_assoc]
    exact mul_lt_mul_of_pos_right (hlt.trans_eq (by linarith)) hu
  · rw [← Int.cast_inj (α := ℚ), hdigits, hend] at heq
    exact hne (mul_right_cancel₀ hu.ne' heq)
  · have hpow : (2 : ℚ) ^ (e - 1) = 2 ^ 29 * 2 ^ (e - 30) := by
      rw [two_zpow_eq_mul 29 (e - 1), show e - 1 - (29 : ℕ) = e - 30 by omega]
    rw [← Int.cast_le (R := ℚ), Int.cast_mul, Int.cast_abs, Int.cast_sub, hdigits, hend, ← sub_mul,
      abs_mul, abs_of_pos hu]
    push_cast
    rw [hhalf, ← mul_assoc]
    exact mul_le_mul_of_nonneg_right (by linarith) hu.le

/-! ## The exception -/

/-- The magnitude whose shortest digits, 7.038531e-26, are so near to the upper end of its
neighbourhood that the number of 64 bits nearest to them is that end. -/
def unsteady : Magnitude Format.single := ⟨11420669, -107, by decide⟩

/-- The magnitude beyond that end. -/
def unsteadyNext : Magnitude Format.single := ⟨11420670, -107, by decide⟩

variable {x : Magnitude Format.single}

/-- Digits that are rounded to an end of the neighbourhood of an odd mantissa are those of the
exception. -/
theorem eq_unsteady (hodd : x.mantissa % 2 = 1) {tie : TieBreak} {g : ℤ} {c : ℕ}
    (h : (Neighbourhood.ofMagnitude x).pointOn? tie g = some c) {n : ℤ}
    (hn : n = 2 * x.mantissa - 1 ∨ n = 2 * x.mantissa + 1)
    (hnear : |(c * 10 ^ g : ℚ) - n * 2 ^ (x.exponent - 1)| ≤ 2 ^ (x.exponent - 30)) :
    x = unsteady := by
  obtain ⟨-, hmin, hmax, -⟩ := x.canonical
  replace hmin : -149 ≤ x.exponent := hmin
  replace hmax : x.exponent < 105 := Int.lt_add_one_of_le hmax
  have hin := (Neighbourhood.contains_iff x.den_ofMagnitude c g).1
    (Neighbourhood.contains_of_pointOn? h)
  have hc : c ≠ 0 := by
    rintro rfl
    have hpos := pos_of_has (by omega) hin
    rw [Nat.cast_zero, zero_mul] at hpos
    exact absurd hpos (lt_irrefl 0)
  have hlt : (c * 10 ^ g : ℚ) < 2 ^ (x.exponent + 24) := lt_of_has (by omega) hin
  have hne : (c * 10 ^ g : ℚ) ≠ n * 2 ^ (x.exponent - 1) := by
    rw [has_ofMagnitude_of_odd (by decide) hodd, abs_lt] at hin
    rcases half_steps_eq hn with hend | hend <;> rw [hend] <;> intro heq <;> linarith
  have hgrid := gridExponent_le hmin hmax (le_pow_of_near_end (by decide) hodd h hn hnear)
  obtain ⟨he, -, hnum⟩ := (nearMiss_of_abs_le hgrid hc hlt hne hnear).unique hmin hmax
  obtain ⟨m, e, hcanonical⟩ := x
  obtain rfl : e = -107 := he
  obtain rfl : m = 11420669 := by
    dsimp only at hn hodd
    omega
  rfl

/-- The number of 64 bits nearest to shortest digits lies in the neighbourhood of the magnitude. -/
theorem exists_double (hx : x.mantissa ≠ 0) (hsteady : x ≠ unsteady) {tie : TieBreak} {g : ℤ}
    {c : ℕ} (h : (Neighbourhood.ofMagnitude x).pointOn? tie g = some c) {num den : ℕ}
    (hnum : (num / den : ℚ) = c * 10 ^ g) :
    ∃ y : Magnitude Format.double, round? num den = some y ∧
      (Neighbourhood.ofMagnitude x).Has y.value := by
  obtain ⟨-, hmin, hmax, -⟩ := x.canonical
  replace hmin : -149 ≤ x.exponent := hmin
  replace hmax : x.exponent ≤ 104 := hmax
  have hin : (Neighbourhood.ofMagnitude x).Has (num / den) := by
    rw [hnum, ← Neighbourhood.contains_iff x.den_ofMagnitude]
    exact Neighbourhood.contains_of_pointOn? h
  obtain ⟨hnum', hden'⟩ := ne_zero_of_div_pos (pos_of_has hx hin)
  have hlt : (num / den : ℚ) < 2 ^ (x.exponent + 24) := lt_of_has hx hin
  obtain ⟨y, hround, m, hy, hnearest⟩ := exists_round? (F := .double) hnum' hden' (by decide)
    (by decide) (hlt.trans (two_zpow_lt_iff.2 (by show x.exponent + 24 < 971 + 52; omega)))
  have hstep : stepExponent .double num den ≤ x.exponent - 29 := by
    have hlog := floorLog2_lt hnum' hden' hlt
    exact max_le (by show -1074 ≤ x.exponent - 29; omega)
      (by show floorLog2 num den - 52 ≤ x.exponent - 29; omega)
  generalize stepExponent .double num den = E at hy hnearest hstep
  obtain ⟨hlow, hhigh⟩ := bounds_of_nearest hx hin (by omega) hnearest
  rw [← hy] at hlow hhigh
  refine ⟨y, hround, ?_⟩
  rw [has_ofMagnitude x hx]
  split
  · exact ⟨hlow, hhigh⟩
  · next hodd =>
    -- An end that does not belong to the neighbourhood is not reached.
    have hend : ∀ n : ℤ, n = 2 * x.mantissa - 1 ∨ n = 2 * x.mantissa + 1 →
        y.value ≠ n * 2 ^ (x.exponent - 1) := by
      intro n hn heq
      refine hsteady (eq_unsteady (by omega) h hn ?_)
      rw [← hnum, ← heq, hy, abs_sub_comm]
      exact hnearest.abs_sub_le.trans (two_zpow_le_iff.2 (by omega))
    have hhalf : (2 : ℚ) ^ (x.exponent - 1) = 2 ^ x.exponent / 2 := by
      rw [zpow_sub_one₀ (by norm_num), div_eq_mul_inv]
    refine ⟨lt_of_le_of_ne hlow fun heq => hend _ (Or.inl rfl) ?_,
      lt_of_le_of_ne hhigh fun heq => hend _ (Or.inr rfl) ?_⟩
    · rw [← heq, lowEnd, below_of_odd (by decide) (by omega), hhalf]
      push_cast
      ring
    · rw [heq, highEnd, hhalf]
      push_cast
      ring

/-- Shortest digits are rounded to 64 bits and then to the magnitude they were printed for. -/
theorem exists_convert (hx : x.mantissa ≠ 0) (hsteady : x ≠ unsteady) {num den : ℕ}
    (hnum : (num / den : ℚ) = (x.shortest .up).digits * 10 ^ (x.shortest .up).exponent)
    (negative : Bool) :
    ∃ y : Magnitude Format.double, Binary.ofFraction negative num den = .finite negative y ∧
      (Binary.finite negative y).convert .single = .finite negative x := by
  obtain ⟨c, g, hshortest, hpoint, -⟩ := x.shortest_spec hx .up
  rw [hshortest] at hnum
  obtain ⟨y, hround, hin⟩ := exists_double hx hsteady hpoint hnum
  have hvalue : y.value = (y.mantissa * twoPow y.exponent.toNat : ℕ) /
      (twoPow (-y.exponent).toNat : ℕ) := by
    rw [Nat.cast_mul, cast_twoPow, cast_twoPow, mul_div_assoc, pow_toNat_div, value]
  rw [hvalue] at hin
  refine ⟨y, ?_, ?_⟩
  · rw [Binary.ofFraction, hround]
  · rw [Binary.convert, Binary.ofFraction, round?_eq_some x (by decide) hx hin]

end Magnitude

end HelpQuery
