import HelpQuery.Proofs.Arrangement
import HelpQuery.Proofs.Boosts
import Mathlib.Tactic.NormNum

/-!
# Bounds of rounded values

Rounding does not pass a number that is exact in the format, so bounds that are exact go through
every operation.  They are kept for values that are not negative, and below all values alone:

    l ≤ x ≤ u, l' ≤ y ≤ u'  →  L ≤ x + y ≤ U   for exact L ≤ l + l' and u + u' ≤ U   (Between.add)
    v ≤ x, w ≤ y            →  v + w ≤ x + y   for v + w ≤ 0 that is exact           (AtLeast.add)

What is at least a bound above the least finite value is a score that counts.
-/

namespace HelpQuery

namespace Magnitude

variable {F : Format}

theorem value_nonneg (m : Magnitude F) : 0 ≤ m.value :=
  mul_nonneg (Nat.cast_nonneg _) (two_zpow_pos _).le

theorem mantissa_ne_zero {m : Magnitude F} (h : 0 < m.value) : m.mantissa ≠ 0 := by
  intro hzero
  rw [value, hzero, Nat.cast_zero, zero_mul] at h
  exact lt_irrefl _ h

end Magnitude

/-! ## Exact numbers -/

/-- A number that is not rounded, and far from the greatest one. -/
def Single.Exact (v : ℚ) : Prop :=
  ∃ (k : ℕ) (d : ℤ), k < 2 ^ 24 ∧ -149 ≤ d ∧ d ≤ 103 ∧ v = k * 2 ^ d

namespace Single

theorem exact_zero : Exact 0 := ⟨0, 0, by norm_num, by norm_num, by norm_num, by norm_num⟩

theorem exact_two_zpow {d : ℤ} (hmin : -149 ≤ d := by norm_num) (hmax : d ≤ 126 := by norm_num) :
    Exact (2 ^ d) := by
  rcases le_or_gt d 103 with h | h
  · exact ⟨1, d, by norm_num, hmin, h, by rw [Nat.cast_one, one_mul]⟩
  · refine ⟨2 ^ 23, d - 23, by norm_num, by omega, by omega, ?_⟩
    rw [two_zpow_eq_mul 23 d]
    norm_num

theorem exact_one : Exact 1 := by
  rw [← zpow_zero 2]
  exact exact_two_zpow

theorem Exact.nonneg {v : ℚ} (h : Exact v) : 0 ≤ v := by
  obtain ⟨k, d, -, -, -, rfl⟩ := h
  exact mul_nonneg (Nat.cast_nonneg k) (two_zpow_pos d).le

theorem Exact.lt {v : ℚ} (h : Exact v) : v < 2 ^ (127 : ℤ) := by
  obtain ⟨k, d, hk, -, hd, rfl⟩ := h
  have hcast : (k : ℚ) < 2 ^ 24 := by exact_mod_cast hk
  calc (k * 2 ^ d : ℚ) < 2 ^ 24 * 2 ^ d := mul_lt_mul_of_pos_right hcast (two_zpow_pos d)
    _ ≤ 2 ^ 24 * 2 ^ (103 : ℤ) := mul_le_mul_of_nonneg_left (two_zpow_le_iff.2 hd) (by norm_num)
    _ = 2 ^ (127 : ℤ) := by norm_num

end Single

/-! ## Rounding between exact numbers -/

section Rounding

open Single

variable {num den : ℕ} (hden : den ≠ 0)

include hden

theorem stepExponent_le {k : ℕ} {d : ℤ} (hnum : num ≠ 0) (hk : k < 2 ^ 24) (hd : -149 ≤ d)
    (h : (num / den : ℚ) ≤ k * 2 ^ d) : Magnitude.stepExponent Format.single num den ≤ d := by
  have hcast : (k : ℚ) < 2 ^ 24 := by exact_mod_cast hk
  have hlog : floorLog2 num den < 24 + d := by
    refine floorLog2_lt hnum hden (h.trans_lt ?_)
    rw [two_zpow_add]
    exact mul_lt_mul_of_pos_right hcast (two_zpow_pos d)
  exact max_le hd (by show floorLog2 num den - (23 : ℕ) ≤ d; omega)

/-- Rounding does not go below an exact number. -/
theorem exact_le_of_nearest {k m : ℕ} {d : ℤ} (hnum : num ≠ 0) (hk : k < 2 ^ 24) (hd : -149 ≤ d)
    (hnearest : Nearest (num / den / 2 ^ Magnitude.stepExponent Format.single num den) m)
    (h : (k * 2 ^ d : ℚ) ≤ num / den) :
    (k * 2 ^ d : ℚ) ≤ m * 2 ^ Magnitude.stepExponent Format.single num den := by
  rcases le_or_gt (Magnitude.stepExponent Format.single num den) d with hstep | hstep
  · exact hnearest.mul_le hstep h
  · -- Then the leading bit of the mantissa alone is more than the number.
    have hcast : (k : ℚ) ≤ 2 ^ 24 := by exact_mod_cast hk.le
    obtain ⟨-, hlead⟩ := Magnitude.scaled_bounds (F := .single) hnum hden (by decide)
    have hlead : (2 : ℚ) ^ 23 * 2 ^ Magnitude.stepExponent Format.single num den ≤
        num / den := by
      rw [← le_div_iff₀ (two_zpow_pos _)]
      refine hlead.resolve_left fun hleast => ?_
      rw [hleast] at hstep
      exact absurd hd (not_le.2 hstep)
    generalize Magnitude.stepExponent Format.single num den = e at hstep hnearest hlead ⊢
    have hle : (2 : ℚ) ^ d ≤ 2 ^ (e - 1) := two_zpow_le_iff.2 (by omega)
    have hround := hnearest.mul_le (k := 2 ^ 23) le_rfl (by exact_mod_cast hlead)
    calc (k * 2 ^ d : ℚ) ≤ 2 ^ 24 * 2 ^ (e - 1) :=
          mul_le_mul hcast hle (two_zpow_pos d).le (by norm_num)
      _ = 2 ^ 23 * 2 ^ e := by rw [zpow_sub_one₀ (by norm_num)]; ring
      _ ≤ m * 2 ^ e := by exact_mod_cast hround

/-- Rounding does not pass exact numbers. -/
theorem round?_between {l u : ℚ} (hl : Exact l) (hu : Exact u) (hlow : l ≤ num / den)
    (hhigh : (num / den : ℚ) ≤ u) :
    ∃ m : Magnitude Format.single, Magnitude.round? num den = some m ∧ l ≤ m.value ∧
      m.value ≤ u := by
  rcases eq_or_ne num 0 with rfl | hnum
  · rw [Nat.cast_zero, zero_div] at hlow hhigh
    refine ⟨⟨0, -149, by decide⟩, rfl, ?_⟩
    rw [Magnitude.value, Nat.cast_zero, zero_mul]
    exact ⟨hlow, hhigh⟩
  · obtain ⟨y, hround, m, hvalue, hnearest⟩ := Magnitude.exists_round? (F := .single) hnum hden
      (by decide) (by decide) (hhigh.trans_lt hu.lt)
    obtain ⟨k, d, hk, hd, -, rfl⟩ := hl
    obtain ⟨k', d', hk', hd', -, rfl⟩ := hu
    refine ⟨y, hround, ?_, ?_⟩
    · rw [hvalue]
      exact exact_le_of_nearest hden hnum hk hd hnearest hlow
    · rw [hvalue]
      exact hnearest.le_mul (stepExponent_le hden hnum hk' hd' hhigh) hhigh

/-- The step from a power of two to the next one. -/
theorem stepExponent_of_lt {d : ℤ} (hmin : -126 ≤ d) (hnum : num ≠ 0)
    (hlow : (2 ^ d : ℚ) < num / den) (hhigh : (num / den : ℚ) < 2 ^ (d + 1)) :
    Magnitude.stepExponent Format.single num den = d - 23 := by
  refine Magnitude.stepExponent_eq hnum hden (by decide) (by show (-149 : ℤ) ≤ d - 23; omega)
    (Or.inr ?_) ?_
  · rw [show d - 23 + ((Format.single.precision - 1 : ℕ) : ℤ) = d by
      show d - 23 + 23 = d; omega]
    exact hlow.le
  · rw [show d - 23 + (Format.single.precision : ℤ) = d + 1 by show d - 23 + 24 = d + 1; omega]
    exact hhigh

/-- What is less than half a step above a power of two is rounded down to it. -/
theorem round?_absorbs {d : ℤ} (hmin : -126 ≤ d) (hmax : d ≤ 125)
    (h : (num / den : ℚ) ≤ 2 ^ d + 2 ^ (d - 25)) :
    ∃ m : Magnitude Format.single, Magnitude.round? num den = some m ∧ m.value ≤ 2 ^ d := by
  have hnonneg : (0 : ℚ) ≤ num / den := by positivity
  rcases le_or_gt (num / den : ℚ) (2 ^ d) with hle | hgt
  · obtain ⟨m, hround, -, hm⟩ :=
      round?_between hden exact_zero (exact_two_zpow (by omega) (by omega)) hnonneg hle
    exact ⟨m, hround, hm⟩
  · obtain ⟨hnum, -⟩ := ne_zero_of_div_pos ((two_zpow_pos d).trans hgt)
    have hsmall := two_zpow_pos (d - 25)
    have hpow : (2 : ℚ) ^ d = 2 ^ 23 * 2 ^ (d - 23) := by exact_mod_cast two_zpow_eq_mul 23 d
    have hquarter : (2 : ℚ) ^ (d - 23) = 4 * 2 ^ (d - 25) := by
      rw [show d - 23 = d - 25 + 2 by omega, two_zpow_add]
      norm_num
      ring
    have hlt : (num / den : ℚ) < 2 ^ (d + 1) := by
      rw [two_zpow_add]
      linarith
    obtain ⟨y, hround, m, hvalue, hnearest⟩ := Magnitude.exists_round? (F := .single) hnum hden
      (by decide) (by decide) (hlt.trans_le (two_zpow_le_iff.2 (by show d + 1 ≤ 127; omega)))
    rw [stepExponent_of_lt hden hmin hnum hgt hlt] at hvalue hnearest
    have hscaled : (num / den / 2 ^ (d - 23) : ℚ) ≤ 2 ^ 23 + 1 / 4 := by
      rw [div_le_iff₀ (two_zpow_pos _)]
      linarith
    have hm : m < 2 ^ 23 + 1 := by
      have hcast : (m : ℚ) < (2 ^ 23 + 1 : ℕ) := by
        push_cast
        linarith [hnearest.le]
      exact_mod_cast hcast
    refine ⟨y, hround, ?_⟩
    rw [hvalue, hpow]
    exact mul_le_mul_of_nonneg_right (by exact_mod_cast Nat.lt_succ_iff.1 hm) (two_zpow_pos _).le

end Rounding

/-! ## Values that are not negative -/

namespace Single

theorem exact_value {m : Magnitude Format.single} (h : m.value ≤ 2 ^ (126 : ℤ)) :
    Exact m.value := by
  obtain ⟨hlt, hmin, -, hlead⟩ := m.canonical
  refine ⟨m.mantissa, m.exponent, hlt, hmin, ?_, rfl⟩
  rcases hlead with hleast | hlead
  · rw [hleast]
    decide
  · have hcast : (2 ^ 23 : ℚ) ≤ m.mantissa := by exact_mod_cast hlead
    have hle : (2 : ℚ) ^ (23 + m.exponent) ≤ 2 ^ (126 : ℤ) := by
      rw [two_zpow_add]
      exact (mul_le_mul_of_nonneg_right hcast (two_zpow_pos _).le).trans h
    have := two_zpow_le_iff.1 hle
    omega

/-- A finite value that is not negative, within bounds. -/
def Between (l u : ℚ) (x : Single) : Prop :=
  ∃ m : Magnitude Format.single, x = .finite false m ∧ l ≤ m.value ∧ m.value ≤ u

variable {l u l' u' L U : ℚ} {x y : Single}

theorem Between.mono (h : Between l u x) (hl : L ≤ l) (hu : u ≤ U) : Between L U x := by
  obtain ⟨m, rfl, hlow, hhigh⟩ := h
  exact ⟨m, rfl, hl.trans hlow, hhigh.trans hu⟩

theorem between_ofFraction {num den : ℕ} (hden : den ≠ 0) (hL : Exact L) (hU : Exact U)
    (hlow : L ≤ num / den := by norm_num) (hhigh : (num / den : ℚ) ≤ U := by norm_num) :
    Between L U (.ofFraction false num den) := by
  obtain ⟨m, hround, hm⟩ := round?_between hden hL hU hlow hhigh
  exact ⟨m, by rw [Binary.ofFraction, hround], hm⟩

theorem between_ofNat {n : ℕ} (hL : Exact L) (hU : Exact U) (hlow : L ≤ n) (hhigh : (n : ℚ) ≤ U) :
    Between L U (.ofNat n) :=
  between_ofFraction one_ne_zero hL hU (by rwa [Nat.cast_one, div_one])
    (by rwa [Nat.cast_one, div_one])

/-- The exact sum of two magnitudes is a fraction of the least exponent. -/
theorem steps_div (n : ℕ) : ((n * twoPow Format.single.minExp.toNat : ℕ) : ℚ) /
    (twoPow (-Format.single.minExp).toNat : ℕ) = n * 2 ^ Format.single.minExp := by
  rw [Nat.cast_mul, cast_twoPow, cast_twoPow, mul_div_assoc, pow_toNat_div]

theorem add_eq_ofFraction (m n : Magnitude Format.single) :
    (Binary.finite false m + Binary.finite false n : Single) =
      .ofFraction false ((m.steps + n.steps) * twoPow Format.single.minExp.toNat)
        (twoPow (-Format.single.minExp).toNat) := by
  show Binary.ofSignedSteps _ ((m.steps : ℤ) + n.steps) = _
  rw [Binary.ofSignedSteps]
  congr 1
  split
  · rfl
  · exact decide_eq_false (by omega)

theorem value_add (m n : Magnitude Format.single) :
    (((m.steps + n.steps) * twoPow Format.single.minExp.toNat : ℕ) : ℚ) /
      (twoPow (-Format.single.minExp).toNat : ℕ) = m.value + n.value := by
  rw [steps_div, Nat.cast_add, add_mul, ← m.value_eq_steps, ← n.value_eq_steps]

theorem twoPow_ne_zero (k : ℕ) : twoPow k ≠ 0 := (Nat.pow_pos (by decide)).ne'

theorem Between.add (hx : Between l u x) (hy : Between l' u' y) (hL : Exact L) (hU : Exact U)
    (hlow : L ≤ l + l' := by norm_num) (hhigh : u + u' ≤ U := by norm_num) :
    Between L U (x + y) := by
  obtain ⟨m, rfl, hm, hm'⟩ := hx
  obtain ⟨n, rfl, hn, hn'⟩ := hy
  rw [add_eq_ofFraction]
  refine between_ofFraction (twoPow_ne_zero _) hL hU ?_ ?_
  · rw [value_add]
    linarith
  · rw [value_add]
    linarith

/-- A sum is at most a power of two that one summand is too small to leave. -/
theorem Between.add_absorbs {d : ℤ} (hmin : -126 ≤ d) (hmax : d ≤ 125) (hx : Between 0 (2 ^ d) x)
    (hy : Between 0 (2 ^ (d - 25)) y) : Between 0 (2 ^ d) (x + y) := by
  obtain ⟨m, rfl, -, hm⟩ := hx
  obtain ⟨n, rfl, -, hn⟩ := hy
  rw [add_eq_ofFraction]
  obtain ⟨z, hround, hz⟩ := round?_absorbs (twoPow_ne_zero _) hmin hmax
    ((value_add m n).trans_le (add_le_add hm hn))
  exact ⟨z, by rw [Binary.ofFraction, hround], z.value_nonneg, hz⟩

theorem Between.mul (hx : Between l u x) (hy : Between l' u' y) (hL : Exact L) (hU : Exact U)
    (hl : 0 ≤ l := by norm_num) (hl' : 0 ≤ l' := by norm_num)
    (hlow : L ≤ l * l' := by norm_num) (hhigh : u * u' ≤ U := by norm_num) :
    Between L U (x * y) := by
  obtain ⟨m, rfl, hm, hm'⟩ := hx
  obtain ⟨n, rfl, hn, hn'⟩ := hy
  have hnonneg : 0 ≤ n.value := hl'.trans hn
  refine between_ofFraction (twoPow_ne_zero _) hL hU ?_ ?_
  · rw [Magnitude.value_mul]
    exact hlow.trans (mul_le_mul hm hn hl' (hl.trans hm))
  · rw [Magnitude.value_mul]
    exact (mul_le_mul hm' hn' hnonneg (hl.trans (hm.trans hm'))).trans hhigh

theorem value_div {m n : Magnitude Format.single} :
    ((m.mantissa * twoPow (m.exponent - n.exponent).toNat : ℕ) : ℚ) /
      (n.mantissa * twoPow (-(m.exponent - n.exponent)).toNat : ℕ) = m.value / n.value := by
  rw [Nat.cast_mul, Nat.cast_mul, cast_twoPow, cast_twoPow, mul_div_mul_comm, pow_toNat_div,
    sub_eq_add_neg, two_zpow_add, zpow_neg, Magnitude.value, Magnitude.value, mul_div_mul_comm,
    div_eq_mul_inv (2 ^ m.exponent : ℚ)]

theorem Between.div (hx : Between l u x) (hy : Between l' u' y) (hL : Exact L) (hU : Exact U)
    (hl : 0 ≤ l := by norm_num) (hl' : 0 < l' := by norm_num)
    (hlow : L ≤ l / u' := by norm_num) (hhigh : u / l' ≤ U := by norm_num) :
    Between L U (x / y) := by
  obtain ⟨m, rfl, hm, hm'⟩ := hx
  obtain ⟨n, rfl, hn, hn'⟩ := hy
  have hpos : 0 < n.value := hl'.trans_le hn
  have hmantissa := Magnitude.mantissa_ne_zero hpos
  show Between L U (Binary.div _ _)
  rw [Binary.div, if_neg hmantissa]
  refine between_ofFraction (Nat.mul_ne_zero hmantissa (twoPow_ne_zero _)) hL hU ?_ ?_
  · rw [value_div]
    exact hlow.trans (div_le_div₀ (hl.trans hm) hm hpos hn')
  · rw [value_div]
    exact (div_le_div₀ (hl.trans (hm.trans hm')) hm' hl' hn).trans hhigh

/-! ## Values of either sign -/

/-- The number that a finite value stands for. -/
def signedValue (negative : Bool) (m : Magnitude Format.single) : ℚ :=
  if negative then -m.value else m.value

theorem signedValue_eq_steps (negative : Bool) (m : Magnitude Format.single) :
    signedValue negative m = Binary.signedSteps negative m * 2 ^ Format.single.minExp := by
  cases negative with
  | false => simp [signedValue, Binary.signedSteps, m.value_eq_steps]
  | true => simp [signedValue, Binary.signedSteps, m.value_eq_steps]

theorem signedValue_le_iff {s t : Bool} {m n : Magnitude Format.single} :
    signedValue s m ≤ signedValue t n ↔ Binary.signedSteps s m ≤ Binary.signedSteps t n := by
  rw [signedValue_eq_steps, signedValue_eq_steps, mul_le_mul_iff_left₀ (two_zpow_pos _),
    Int.cast_le]

theorem signedValue_lt_iff {s t : Bool} {m n : Magnitude Format.single} :
    signedValue s m < signedValue t n ↔ Binary.signedSteps s m < Binary.signedSteps t n := by
  rw [← not_le, signedValue_le_iff, not_le]

/-- Infinity, or a finite value that is at least a bound. -/
def AtLeast (v : ℚ) : Single → Prop
  | .nan => False
  | .infinite negative => negative = false
  | .finite negative m => v ≤ signedValue negative m

variable {v w : ℚ}

/-- What is not less than a finite value is at least the number it stands for. -/
theorem atLeast_of_le {s : Bool} {m : Magnitude Format.single}
    (h : (Binary.finite s m : Single).le x = true) : AtLeast (signedValue s m) x := by
  cases x with
  | nan => cases h
  | infinite negative =>
    cases negative with
    | false => exact rfl
    | true => cases h
  | finite t n => exact signedValue_le_iff.2 (of_decide_eq_true h)

theorem AtLeast.mono (h : AtLeast v x) (hw : w ≤ v) : AtLeast w x := by
  cases x with
  | nan => exact h
  | infinite negative => exact h
  | finite negative m => exact hw.trans h

theorem Between.atLeast (h : Between l u x) : AtLeast l x := by
  obtain ⟨m, rfl, hm, -⟩ := h
  exact hm

/-- A magnitude that is rounded up may be infinite. -/
theorem atLeast_ofFraction {num den : ℕ} : AtLeast 0 (.ofFraction false num den) := by
  unfold Binary.ofFraction
  split
  · next m _ => exact m.value_nonneg
  · rfl

/-- Below zero the magnitude is bounded. -/
theorem atLeast_ofFraction_neg {num den : ℕ} (hden : den ≠ 0) (hv : Exact (-v))
    (h : (num / den : ℚ) ≤ -v) (negative : Bool) : AtLeast v (.ofFraction negative num den) := by
  have hnonneg : (0 : ℚ) ≤ num / den := by positivity
  obtain ⟨m, hround, hm, hm'⟩ := round?_between hden exact_zero hv hnonneg h
  rw [Binary.ofFraction, hround]
  show v ≤ signedValue negative m
  cases negative with
  | false => exact (neg_nonneg.1 (hm.trans hm')).trans hm
  | true => exact le_neg.1 hm'

/-- A whole number of steps is rounded to no less than a bound that is not positive. -/
theorem atLeast_ofSignedSteps {k : ℤ} (hv : Exact (-v)) (h : v ≤ k * 2 ^ Format.single.minExp)
    (negativeZero : Bool) : AtLeast v (Binary.ofSignedSteps negativeZero k) := by
  rw [Binary.ofSignedSteps]
  rcases le_or_gt k 0 with hk | hk
  · refine atLeast_ofFraction_neg (twoPow_ne_zero _) hv ?_ _
    rw [steps_div, Nat.cast_natAbs, abs_of_nonpos hk, Int.cast_neg, neg_mul]
    exact neg_le_neg h
  · rw [if_neg hk.ne', decide_eq_false (by omega)]
    exact atLeast_ofFraction.mono (neg_nonneg.1 hv.nonneg)

theorem AtLeast.add (hx : AtLeast v x) (hy : AtLeast w y) (hsum : Exact (-(v + w))) :
    AtLeast (v + w) (x + y) := by
  cases x with
  | nan => exact hx.elim
  | infinite s =>
    obtain rfl : s = false := hx
    cases y with
    | nan => exact hy.elim
    | infinite t =>
      obtain rfl : t = false := hy
      exact rfl
    | finite t n => exact rfl
  | finite s m =>
    cases y with
    | nan => exact hy.elim
    | infinite t => exact hy
    | finite t n =>
      have hsteps : v + w ≤ ((Binary.signedSteps s m + Binary.signedSteps t n : ℤ) : ℚ) *
          2 ^ Format.single.minExp := by
        rw [Int.cast_add, add_mul, ← signedValue_eq_steps, ← signedValue_eq_steps]
        exact add_le_add hx hy
      exact atLeast_ofSignedSteps hsum hsteps (s && t)

theorem atLeast_mul_finite {s t : Bool} {m n : Magnitude Format.single}
    (hx : AtLeast 0 (.finite s m)) (hy : AtLeast 0 (.finite t n)) :
    AtLeast 0 (Binary.finite s m * Binary.finite t n : Single) := by
  have hzero : ∀ {s : Bool} {m : Magnitude Format.single}, AtLeast 0 (.finite s m) → s = true →
      m.value = 0 := by
    rintro _ m hm rfl
    exact le_antisymm (neg_nonneg.1 hm) m.value_nonneg
  by_cases hproduct : m.value * n.value = 0
  · refine atLeast_ofFraction_neg (twoPow_ne_zero _) (by simpa using exact_zero) ?_ _
    rw [Magnitude.value_mul, hproduct, neg_zero]
  · have hs : s = false := by
      cases s with
      | false => rfl
      | true => simp [hzero hx rfl] at hproduct
    have ht : t = false := by
      cases t with
      | false => rfl
      | true => simp [hzero hy rfl] at hproduct
    subst hs ht
    exact atLeast_ofFraction

/-- A product of values that are not negative is not negative, unless a zero is multiplied by an
infinity. -/
theorem AtLeast.mul_between (hx : AtLeast 0 x) (hl : 0 < l) (hy : Between l u y) :
    AtLeast 0 (x * y) := by
  obtain ⟨n, rfl, hn, -⟩ := hy
  cases x with
  | nan => exact hx.elim
  | infinite s =>
    obtain rfl : s = false := hx
    show AtLeast 0 (Binary.mul _ _)
    rw [Binary.mul, if_neg (Magnitude.mantissa_ne_zero (hl.trans_le hn))]
    exact rfl
  | finite s m => exact atLeast_mul_finite hx (hl.le.trans hn)

/-! ### Magnitudes within a bound -/

/-- A finite value with a bounded magnitude. -/
def Within (u : ℚ) (x : Single) : Prop :=
  ∃ (negative : Bool) (m : Magnitude Format.single), x = .finite negative m ∧ m.value ≤ u

theorem Between.within (h : Between l u x) : Within u x := by
  obtain ⟨m, rfl, -, hm⟩ := h
  exact ⟨false, m, rfl, hm⟩

theorem Within.atLeast (h : Within u x) : AtLeast (-u) x := by
  obtain ⟨negative, m, rfl, hm⟩ := h
  show -u ≤ signedValue negative m
  cases negative with
  | false => exact (neg_nonpos.2 (m.value_nonneg.trans hm)).trans m.value_nonneg
  | true => exact neg_le_neg hm

theorem Within.mul (hx : Within u x) (hy : Within u' y) (hU : Exact U) (h : u * u' ≤ U) :
    Within U (x * y) := by
  obtain ⟨s, m, rfl, hm⟩ := hx
  obtain ⟨t, n, rfl, hn⟩ := hy
  have hle : m.value * n.value ≤ U :=
    (mul_le_mul hm hn n.value_nonneg (m.value_nonneg.trans hm)).trans h
  rw [← Magnitude.value_mul] at hle
  obtain ⟨z, hround, -, hz⟩ := round?_between (twoPow_ne_zero _) exact_zero hU (by positivity) hle
  refine ⟨s != t, z, ?_, hz⟩
  show Binary.ofFraction _ _ _ = _
  rw [Binary.ofFraction, hround]

/-! ## Scores that count -/

/-- What is well above the least finite value counts. -/
theorem AtLeast.scoreCounts (h : AtLeast v x) (hv : -2 ^ (126 : ℤ) ≤ v) :
    scoreCounts x = true := by
  cases x with
  | nan => exact h.elim
  | infinite s =>
    obtain rfl : s = false := h
    rfl
  | finite s m =>
    have hgreatest : -Single.greatest = .finite true ⟨twoPow 24 - 1, 104, by decide⟩ := rfl
    have hlt : Binary.signedSteps true (⟨twoPow 24 - 1, 104, by decide⟩ :
        Magnitude Format.single) < Binary.signedSteps s m := by
      rw [← signedValue_lt_iff]
      refine lt_of_lt_of_le ?_ (hv.trans h)
      norm_num [signedValue, Magnitude.value, twoPow]
    rw [HelpQuery.scoreCounts, hgreatest, Binary.lt, Binary.le, Binary.le, decide_eq_true hlt.le,
      decide_eq_false (not_le.2 hlt)]
    rfl

/-- Nothing is below zero in sums of what is not. -/
theorem scoreFloor_zero (size : ℕ) : ScoreFloor size fun _ => AtLeast 0 where
  zero := atLeast_ofFraction
  add hx hy _ := by
    have h := hx.add hy (by simpa using exact_zero)
    rwa [add_zero] at h
  mono h _ := h
  counts h _ := h.scoreCounts (by norm_num)

/-- Sums of few values that are not far below zero are not, either. -/
theorem scoreFloor_neg : ScoreFloor (2 ^ 24 - 1) fun n => AtLeast (-(n * 2 ^ (102 : ℤ))) where
  zero := by
    rw [Nat.cast_zero, zero_mul, neg_zero]
    exact atLeast_ofFraction
  add {i j x y} hx hy hsize := by
    have h := hx.add hy ⟨i + j, 102, by omega, by norm_num, by norm_num, by push_cast; ring⟩
    rwa [← neg_add, ← add_mul, ← Nat.cast_add] at h
  mono {i j x} h hij := by
    refine h.mono (neg_le_neg (mul_le_mul_of_nonneg_right ?_ (two_zpow_pos _).le))
    exact_mod_cast hij
  counts {i x} h hsize := by
    refine h.scoreCounts (neg_le_neg ?_)
    have hcast : (i : ℚ) ≤ 2 ^ 24 := by exact_mod_cast hsize.trans (by norm_num)
    calc (i * 2 ^ (102 : ℤ) : ℚ) ≤ 2 ^ 24 * 2 ^ (102 : ℤ) :=
          mul_le_mul_of_nonneg_right hcast (two_zpow_pos _).le
      _ = 2 ^ (126 : ℤ) := by norm_num

end Single

end HelpQuery
