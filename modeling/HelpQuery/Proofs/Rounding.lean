import HelpQuery.Number.Binary
import Mathlib.Algebra.Order.Field.Power
import Mathlib.Tactic.FieldSimp
import Mathlib.Tactic.Linarith
import Mathlib.Tactic.Positivity
import Mathlib.Tactic.Ring

/-!
# Rounding once

The exact value of a fraction is measured by the greatest power of two below it and rounded to a
whole number of steps.  A fraction that is in range gives the nearest number of its steps:

    Magnitude.round? num den = some y ∧ y.value = m * 2 ^ e ∧ Nearest (num / den / 2 ^ e) m

where `e` is `stepExponent F num den`.
-/

namespace HelpQuery

/-! ## Powers -/

@[simp] theorem cast_twoPow (k : ℕ) : ((twoPow k : ℕ) : ℚ) = 2 ^ k := Nat.cast_pow 2 k

@[simp] theorem cast_tenPow (k : ℕ) : ((tenPow k : ℕ) : ℚ) = 10 ^ k := Nat.cast_pow 10 k

/-- A power of any exponent is a quotient of two powers that are whole numbers. -/
theorem pow_toNat_div {b : ℚ} (e : ℤ) : b ^ e.toNat / b ^ (-e).toNat = b ^ e := by
  obtain ⟨n, rfl | rfl⟩ := e.eq_nat_or_neg
  · simp
  · simp

theorem two_zpow_pos (e : ℤ) : (0 : ℚ) < 2 ^ e := zpow_pos (by norm_num) e

theorem two_zpow_add (d e : ℤ) : (2 : ℚ) ^ (d + e) = 2 ^ d * 2 ^ e := zpow_add₀ (by norm_num) d e

theorem two_zpow_eq_mul (k : ℕ) (e : ℤ) : (2 : ℚ) ^ e = 2 ^ k * 2 ^ (e - k) := by
  rw [← zpow_natCast, ← two_zpow_add, add_sub_cancel]

/-- A multiple of a power of two is one of every power below it. -/
theorem mul_two_zpow_add (k j : ℕ) (e : ℤ) :
    (k * 2 ^ (e + j) : ℚ) = (k * 2 ^ j : ℕ) * 2 ^ e := by
  rw [two_zpow_add, zpow_natCast]
  push_cast
  ring

theorem two_zpow_lt_iff {d e : ℤ} : (2 : ℚ) ^ d < 2 ^ e ↔ d < e :=
  zpow_lt_zpow_iff_right₀ (by norm_num)

theorem two_zpow_le_iff {d e : ℤ} : (2 : ℚ) ^ d ≤ 2 ^ e ↔ d ≤ e :=
  zpow_le_zpow_iff_right₀ (by norm_num)

/-! ## Logarithms -/

theorem scaleDown_div (num den : ℕ) (e : ℤ) :
    ((scaleDown num den e).1 : ℚ) / (scaleDown num den e).2 = num / den / 2 ^ e := by
  have hpow : (2 : ℚ) ^ (-e).toNat / 2 ^ e.toNat = (2 ^ e)⁻¹ := by
    rw [← zpow_neg, ← pow_toNat_div (-e), neg_neg]
  rw [scaleDown, Nat.cast_mul, Nat.cast_mul, cast_twoPow, cast_twoPow, mul_div_mul_comm, hpow,
    ← div_eq_mul_inv]

theorem scaleDown_den_ne_zero {den : ℕ} (hden : den ≠ 0) (num : ℕ) (e : ℤ) :
    (scaleDown num den e).2 ≠ 0 :=
  Nat.mul_ne_zero hden (Nat.pow_pos (by decide)).ne'

/-- A fraction that is greater than zero has both its parts. -/
theorem ne_zero_of_div_pos {num den : ℕ} (h : (0 : ℚ) < num / den) : num ≠ 0 ∧ den ≠ 0 := by
  constructor
  · rintro rfl
    simp at h
  · rintro rfl
    simp at h

section Fractions

variable {num den : ℕ} (hnum : num ≠ 0) (hden : den ≠ 0)

include hnum hden

/-- A fraction lies between the power of two that is found and the next one. -/
theorem floorLog2_spec :
    (2 : ℚ) ^ floorLog2 num den ≤ num / den ∧ (num / den : ℚ) < 2 ^ (floorLog2 num den + 1) := by
  have hd : (0 : ℚ) < den := by positivity
  have hlow : (2 : ℚ) ^ (num.log2 : ℤ) ≤ num := by
    exact_mod_cast Nat.log2_self_le hnum
  have hhigh : (num : ℚ) < 2 ^ ((num.log2 : ℤ) + 1) := by
    exact_mod_cast @Nat.lt_log2_self num
  have hlow' : (2 : ℚ) ^ (den.log2 : ℤ) ≤ den := by
    exact_mod_cast Nat.log2_self_le hden
  have hhigh' : (den : ℚ) < 2 ^ ((den.log2 : ℤ) + 1) := by
    exact_mod_cast @Nat.lt_log2_self den
  generalize he : (num.log2 : ℤ) - den.log2 = e
  have hbelow : (num / den : ℚ) < 2 ^ (e + 1) := by
    rw [div_lt_iff₀ hd]
    calc (num : ℚ) < 2 ^ ((num.log2 : ℤ) + 1) := hhigh
      _ = 2 ^ (e + 1) * 2 ^ (den.log2 : ℤ) := by rw [← two_zpow_add, ← he]; congr 1; ring
      _ ≤ 2 ^ (e + 1) * den := mul_le_mul_of_nonneg_left hlow' (two_zpow_pos _).le
  have habove : (2 : ℚ) ^ (e - 1) ≤ num / den := by
    rw [le_div_iff₀ hd]
    calc (2 : ℚ) ^ (e - 1) * den ≤ 2 ^ (e - 1) * 2 ^ ((den.log2 : ℤ) + 1) :=
          mul_le_mul_of_nonneg_left hhigh'.le (two_zpow_pos _).le
      _ = 2 ^ (num.log2 : ℤ) := by rw [← two_zpow_add, ← he]; congr 1; ring
      _ ≤ num := hlow
  -- The comparison of the scaled parts is that of the fraction with the power.
  have hcompare : (scaleDown num den e).1 < (scaleDown num den e).2 ↔
      (num / den : ℚ) < 2 ^ e := by
    have hscaled : (0 : ℚ) < (scaleDown num den e).2 := by
      exact_mod_cast Nat.pos_of_ne_zero (scaleDown_den_ne_zero hden num e)
    rw [← div_lt_one (two_zpow_pos e), ← scaleDown_div, div_lt_one hscaled, Nat.cast_lt]
  unfold floorLog2
  simp only [he]
  split
  · next h => exact ⟨habove, by rw [sub_add_cancel]; exact hcompare.1 h⟩
  · next h => exact ⟨not_lt.1 fun hlt => h (hcompare.2 hlt), hbelow⟩

theorem le_floorLog2 {e : ℤ} (h : (2 : ℚ) ^ e ≤ num / den) : e ≤ floorLog2 num den :=
  Int.lt_add_one_iff.1 (two_zpow_lt_iff.1 (h.trans_lt (floorLog2_spec hnum hden).2))

theorem floorLog2_lt {e : ℤ} (h : (num / den : ℚ) < 2 ^ e) : floorLog2 num den < e :=
  two_zpow_lt_iff.1 ((floorLog2_spec hnum hden).1.trans_lt h)

end Fractions

/-! ## Whole numbers -/

/-- A whole number nearest to a value; of two equally near ones the even one. -/
structure Nearest (v : ℚ) (m : ℕ) : Prop where
  le : (m : ℚ) ≤ v + 1 / 2
  ge : v - 1 / 2 ≤ m
  even : (m : ℚ) = v + 1 / 2 ∨ (m : ℚ) = v - 1 / 2 → m % 2 = 0

theorem Nearest.unique {v : ℚ} {m n : ℕ} (hm : Nearest v m) (hn : Nearest v n) : m = n := by
  wlog hle : m ≤ n generalizing m n
  · exact (this hn hm (Nat.le_of_not_le hle)).symm
  have hnext : (n : ℚ) ≤ m + 1 := by linarith [hm.ge, hn.le]
  have hnext' : n ≤ m + 1 := by exact_mod_cast hnext
  rcases Nat.lt_or_ge m n with hlt | hge
  · -- Neighbours are equally near only if both are even.
    have hsucc : n = m + 1 := by omega
    have hcast : (n : ℚ) = m + 1 := by exact_mod_cast hsucc
    have hm2 := hm.even (Or.inr (by linarith [hm.ge, hn.le]))
    have hn2 := hn.even (Or.inl (by linarith [hm.ge, hn.le]))
    omega
  · omega

/-- Rounding does not pass a whole number. -/
theorem Nearest.le_of_le {v : ℚ} {l m : ℕ} (h : Nearest v m) (hl : (l : ℚ) ≤ v) : l ≤ m := by
  have hlt : (l : ℚ) < (m + 1 : ℕ) := by
    push_cast
    linarith [h.ge]
  exact Nat.lt_succ_iff.1 (by exact_mod_cast hlt)

theorem Nearest.le_of_ge {v : ℚ} {l m : ℕ} (h : Nearest v m) (hl : v ≤ l) : m ≤ l := by
  have hlt : (m : ℚ) < (l + 1 : ℕ) := by
    push_cast
    linarith [h.le]
  exact Nat.lt_succ_iff.1 (by exact_mod_cast hlt)

section Steps

variable {v : ℚ} {k m : ℕ} {d e : ℤ} (h : Nearest (v / 2 ^ e) m)

include h

/-- Rounding to whole steps is by half a step at most. -/
theorem Nearest.abs_sub_le : |(m * 2 ^ e : ℚ) - v| ≤ 2 ^ (e - 1) := by
  have hstep := two_zpow_pos e
  have hlow := mul_le_mul_of_nonneg_right h.ge hstep.le
  have hhigh := mul_le_mul_of_nonneg_right h.le hstep.le
  rw [sub_mul, div_mul_cancel₀ _ hstep.ne'] at hlow
  rw [add_mul, div_mul_cancel₀ _ hstep.ne'] at hhigh
  rw [zpow_sub_one₀ (by norm_num), abs_le]
  constructor <;> linarith

variable (hde : e ≤ d)

include hde

/-- Rounding to whole steps does not pass a multiple of the step. -/
theorem Nearest.mul_le (hk : (k * 2 ^ d : ℚ) ≤ v) : (k * 2 ^ d : ℚ) ≤ m * 2 ^ e := by
  obtain ⟨j, rfl⟩ := Int.le.dest hde
  rw [mul_two_zpow_add] at hk ⊢
  refine mul_le_mul_of_nonneg_right ?_ (two_zpow_pos e).le
  exact_mod_cast h.le_of_le ((le_div_iff₀ (two_zpow_pos e)).2 hk)

theorem Nearest.le_mul (hk : v ≤ k * 2 ^ d) : (m * 2 ^ e : ℚ) ≤ k * 2 ^ d := by
  obtain ⟨j, rfl⟩ := Int.le.dest hde
  rw [mul_two_zpow_add] at hk ⊢
  refine mul_le_mul_of_nonneg_right ?_ (two_zpow_pos e).le
  exact_mod_cast h.le_of_ge ((div_le_iff₀ (two_zpow_pos e)).2 hk)

end Steps

theorem nearest_roundHalfEven (num : ℕ) {den : ℕ} (hden : den ≠ 0) :
    Nearest (num / den) (roundHalfEven num den) := by
  have hd : (0 : ℚ) < den := by positivity
  have hsplit : (num : ℚ) = den * (num / den : ℕ) + (num % den : ℕ) := by
    exact_mod_cast (Nat.div_add_mod num den).symm
  have hr : num % den < den := Nat.mod_lt num (Nat.pos_of_ne_zero hden)
  have hv : (num / den : ℚ) = (num / den : ℕ) + (num % den : ℕ) / den := by
    rw [hsplit]
    field_simp
  unfold roundHalfEven
  simp only []
  generalize num / den = q at hv ⊢
  generalize num % den = r at hv hr ⊢
  rw [hv]
  have hrest : (0 : ℚ) ≤ r / den := by positivity
  split
  · next h =>
    have hlt : (r / den : ℚ) < 1 / 2 := by
      rw [div_lt_iff₀ hd]
      have hq : (2 * r : ℚ) < den := by exact_mod_cast h
      linarith
    exact ⟨by linarith, by linarith, by rintro (h | h) <;> linarith⟩
  · next h =>
    split
    · next h' =>
      have hgt : (1 / 2 : ℚ) < r / den := by
        rw [lt_div_iff₀ hd]
        have hq : (den : ℚ) < 2 * r := by exact_mod_cast h'
        linarith
      have hone : (r / den : ℚ) < 1 := by
        rw [div_lt_one hd]
        exact_mod_cast hr
      have hsucc : ((q + 1 : ℕ) : ℚ) = q + 1 := Nat.cast_succ q
      exact ⟨by linarith, by linarith, by rintro (h | h) <;> linarith⟩
    · next h' =>
      have hhalf : (r / den : ℚ) = 1 / 2 := by
        have hq : (2 * r : ℚ) = den := by exact_mod_cast (by omega : 2 * r = den)
        rw [div_eq_iff hd.ne']
        linarith
      rcases Nat.mod_two_eq_zero_or_one q with hq | hq
      · rw [hq, hhalf]
        exact ⟨by push_cast; linarith, by push_cast; linarith, fun _ => by omega⟩
      · rw [hq, hhalf]
        exact ⟨by push_cast; linarith, by push_cast; linarith, fun _ => by omega⟩

/-! ## Magnitudes -/

namespace Magnitude

variable {F : Format}

/-- The number a magnitude stands for. -/
def value (x : Magnitude F) : ℚ := x.mantissa * 2 ^ x.exponent

/-- The exponent of the steps that a fraction is rounded to. -/
def stepExponent (F : Format) (num den : ℕ) : ℤ :=
  max F.minExp (floorLog2 num den - (F.precision - 1 : ℕ))

/-- There is one magnitude that is zero. -/
theorem eq_of_mantissa_eq_zero {x y : Magnitude F} (hx : x.mantissa = 0) (hy : y.mantissa = 0) :
    x = y := by
  have hexponent : ∀ z : Magnitude F, z.mantissa = 0 → z.exponent = F.minExp := by
    intro z hz
    refine z.canonical.2.2.2.resolve_right (not_le.2 ?_)
    rw [hz]
    exact Nat.pow_pos (by decide)
  have hxe := hexponent x hx
  have hye := hexponent y hy
  cases x
  cases y
  rw [mk.injEq]
  exact ⟨hx.trans hy.symm, hxe.trans hye.symm⟩

theorem ofParts?_eq_some {m : ℕ} {e : ℤ} (h : F.Canonical m e) :
    (ofParts? m e : Option (Magnitude F)) = some ⟨m, e, h⟩ := dif_pos h

theorem eq_of_ofParts?_eq_some {m : ℕ} {e : ℤ} {x : Magnitude F} (h : ofParts? m e = some x) :
    x.mantissa = m ∧ x.exponent = e := by
  unfold ofParts? at h
  split at h
  · obtain rfl := Option.some.inj h
    exact ⟨rfl, rfl⟩
  · cases h

section Fractions

variable {num den : ℕ} (hnum : num ≠ 0) (hden : den ≠ 0)

include hnum hden

/-- The steps of a fraction are those it has a full mantissa in, or the least ones. -/
theorem stepExponent_eq (hF : 0 < F.precision) {e : ℤ} (hmin : F.minExp ≤ e)
    (hlow : e = F.minExp ∨ (2 : ℚ) ^ (e + (F.precision - 1 : ℕ)) ≤ num / den)
    (hhigh : (num / den : ℚ) < 2 ^ (e + F.precision)) : stepExponent F num den = e := by
  have hlt := floorLog2_lt hnum hden hhigh
  unfold stepExponent
  rcases hlow with rfl | hlow
  · exact max_eq_left (by omega)
  · have hle := le_floorLog2 hnum hden hlow
    rw [max_eq_right (by omega)]
    omega

/-- A fraction is rounded to the nearest whole number of its steps. -/
theorem exists_nearest (F : Format) : ∃ m,
    Nearest (num / den / 2 ^ stepExponent F num den) m ∧
      (round? num den : Option (Magnitude F)) =
        if m = twoPow F.precision then
          ofParts? (twoPow (F.precision - 1)) (stepExponent F num den + 1)
        else ofParts? m (stepExponent F num den) := by
  have hnearest := nearest_roundHalfEven (scaleDown num den (stepExponent F num den)).1
    (scaleDown_den_ne_zero hden num (stepExponent F num den))
  rw [scaleDown_div] at hnearest
  exact ⟨_, hnearest, if_neg hnum⟩

/-- What is rounded has the leading bit of its steps, unless these are the least. -/
theorem scaled_bounds (hF : 0 < F.precision) :
    (num / den / 2 ^ stepExponent F num den : ℚ) < 2 ^ F.precision ∧
      (stepExponent F num den = F.minExp ∨
        (2 : ℚ) ^ (F.precision - 1) ≤ num / den / 2 ^ stepExponent F num den) := by
  obtain ⟨hlow, hhigh⟩ := floorLog2_spec hnum hden
  unfold stepExponent
  generalize floorLog2 num den = l at hlow hhigh ⊢
  constructor
  · rw [div_lt_iff₀ (two_zpow_pos _), ← zpow_natCast, ← two_zpow_add]
    exact hhigh.trans_le (two_zpow_le_iff.2 (by omega))
  · rcases le_total (l - (F.precision - 1 : ℕ)) F.minExp with h | h
    · exact Or.inl (max_eq_left h)
    · right
      rw [max_eq_right h, le_div_iff₀ (two_zpow_pos _), ← zpow_natCast, ← two_zpow_add,
        add_sub_cancel]
      exact hlow

/-- The magnitude that is nearest, in steps of its own, is the rounded one. -/
theorem round?_of_nearest {x : Magnitude F} (hstep : stepExponent F num den = x.exponent)
    (h : Nearest (num / den / 2 ^ x.exponent) x.mantissa) : round? num den = some x := by
  obtain ⟨m, hnearest, hround⟩ := exists_nearest hnum hden F
  rw [hstep] at hnearest hround
  obtain rfl := hnearest.unique h
  rw [hround, if_neg x.canonical.1.ne]
  exact ofParts?_eq_some x.canonical

/-- The magnitude that the next power of two is carried to is the rounded one. -/
theorem round?_of_carry {x : Magnitude F} (hF : 0 < F.precision)
    (hstep : stepExponent F num den = x.exponent - 1)
    (hmantissa : x.mantissa = twoPow (F.precision - 1))
    (hle : (2 : ℚ) ^ F.precision - 1 / 2 ≤ num / den / 2 ^ (x.exponent - 1))
    (hlt : (num / den / 2 ^ (x.exponent - 1) : ℚ) < 2 ^ F.precision) :
    round? num den = some x := by
  obtain ⟨m, hnearest, hround⟩ := exists_nearest hnum hden F
  rw [hstep] at hnearest hround
  have hcarry : m = twoPow F.precision := by
    rw [← cast_twoPow] at hle hlt
    refine hnearest.unique ⟨by linarith, by linarith, fun _ => ?_⟩
    exact Nat.mod_eq_zero_of_dvd (dvd_pow_self 2 (by omega))
  rw [hround, if_pos hcarry, sub_add_cancel, ← hmantissa]
  exact ofParts?_eq_some x.canonical

/-- A fraction below the greatest powers is rounded to a magnitude, by half a step at most. -/
theorem exists_round? (hF : 0 < F.precision) (hrange : F.minExp < F.maxExp)
    (h : (num / den : ℚ) < 2 ^ (F.maxExp + (F.precision - 1 : ℕ))) :
    ∃ y : Magnitude F, round? num den = some y ∧ ∃ m : ℕ,
      y.value = m * 2 ^ stepExponent F num den ∧
        Nearest (num / den / 2 ^ stepExponent F num den) m := by
  obtain ⟨m, hnearest, hround⟩ := exists_nearest hnum hden F
  obtain ⟨hhigh, hlow⟩ := scaled_bounds (F := F) hnum hden hF
  have hlog := floorLog2_lt hnum hden h
  have hmin : F.minExp ≤ stepExponent F num den := le_max_left _ _
  have hmax : stepExponent F num den < F.maxExp := max_lt hrange (by omega)
  have hm : m ≤ twoPow F.precision := by
    have hcast : (m : ℚ) < (2 ^ F.precision + 1 : ℕ) := by
      push_cast
      linarith [hnearest.le]
    exact Nat.lt_succ_iff.1 (by exact_mod_cast hcast)
  generalize stepExponent F num den = e at *
  by_cases hcarry : m = twoPow F.precision
  · rw [if_pos hcarry] at hround
    have hcanonical : F.Canonical (twoPow (F.precision - 1)) (e + 1) :=
      ⟨Nat.pow_lt_pow_right (by decide) (by omega), by omega, by omega, Or.inr le_rfl⟩
    refine ⟨_, hround.trans (ofParts?_eq_some hcanonical), m, ?_, hnearest⟩
    have hpow : (2 : ℚ) ^ F.precision = 2 ^ (F.precision - 1) * 2 := by
      rw [← pow_succ, Nat.sub_add_cancel hF]
    rw [value, hcarry, cast_twoPow, cast_twoPow, two_zpow_add, hpow]
    ring
  · rw [if_neg hcarry] at hround
    have hcanonical : F.Canonical m e := by
      refine ⟨lt_of_le_of_ne hm hcarry, hmin, hmax.le, hlow.imp_right fun hlead => ?_⟩
      have hcast : ((twoPow (F.precision - 1) : ℕ) : ℚ) < (m + 1 : ℕ) := by
        rw [cast_twoPow]
        push_cast
        linarith [hnearest.ge]
      exact Nat.lt_succ_iff.1 (by exact_mod_cast hcast)
    exact ⟨_, hround.trans (ofParts?_eq_some hcanonical), m, rfl, hnearest⟩

/-- A fraction of one step at least is not rounded to zero. -/
theorem mantissa_ne_zero_of_round? (hF : 0 < F.precision) (h : (2 : ℚ) ^ F.minExp ≤ num / den)
    {y : Magnitude F} (hround : round? num den = some y) : y.mantissa ≠ 0 := by
  obtain ⟨m, hnearest, hparts⟩ := exists_nearest hnum hden F
  obtain ⟨-, hlow⟩ := scaled_bounds (F := F) hnum hden hF
  have hone : (1 : ℚ) ≤ num / den / 2 ^ stepExponent F num den := by
    rcases hlow with hleast | hlead
    · rw [hleast, le_div_iff₀ (two_zpow_pos _), one_mul]
      exact h
    · exact (one_le_pow₀ (by norm_num)).trans hlead
  have hm : m ≠ 0 := by
    rintro rfl
    have hge := hnearest.ge
    norm_num at hge
    linarith
  rw [hround] at hparts
  split at hparts
  · rw [(eq_of_ofParts?_eq_some hparts.symm).1]
    exact (Nat.pow_pos (by decide)).ne'
  · rw [(eq_of_ofParts?_eq_some hparts.symm).1]
    exact hm

end Fractions

end Magnitude

end HelpQuery
