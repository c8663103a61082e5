import HelpQuery.Number.Power
import Mathlib.Algebra.Order.Ring.Abs
import Mathlib.Data.Int.Range
import Mathlib.Tactic.Linarith
import Mathlib.Tactic.Ring

/-!
# Approximation of powers of two by powers of ten

Half way between neighbouring magnitudes of 32 bits are the odd multiples of `2 ^ (e - 1)`.  How
near a multiple of `10 ^ k` comes to one of them without meeting it is told by the remainders of
Euclid's algorithm on the ratio of the two powers:

    closest bound fuel B A 0 1 ≤ |c * A - n * B|  for 0 < c ≤ bound and c * A ≠ n * B   (closest_le)

Over all the exponents of the format a single multiple comes within `2 ^ (e - 30)`, the error that a
number of 64 bits may have there:

    NearMiss e c n → e = -107 ∧ c = 7038531 ∧ n = 22841339                        (NearMiss.unique)
-/

namespace HelpQuery

/-! ## Combinations of two numbers -/

/-- The least that Euclid's algorithm leaves of a combination of `r₀` and `r₁` that is not zero.
The multipliers grow as the remainders shrink, and the division ends at the first multiplier that is
beyond the bound. -/
def closest (bound : ℕ) : ℕ → ℕ → ℕ → ℕ → ℕ → ℕ
  | 0, _, _, _, _ => 0
  | fuel + 1, r₀, r₁, s₀, s₁ =>
    if bound < s₁ ∨ r₁ = 0 then r₀
    else closest bound fuel r₁ (r₀ % r₁) s₁ (s₀ + r₀ / r₁ * s₁)

section Combinations

variable {bound r₀ r₁ s₀ s₁ : ℕ} {a b : ℤ}

/-- A multiplier beyond the bound occurs not at all or against the other one, and then the
remainders add up. -/
theorem le_abs_sub_of_beyond (hbeyond : bound < s₁) (hpos : 0 < a * s₀ + b * s₁)
    (hbound : a * s₀ + b * s₁ ≤ bound) : (r₀ : ℤ) ≤ |b * r₁ - a * r₀| := by
  have hs₀ : (0 : ℤ) ≤ s₀ := Int.natCast_nonneg s₀
  have hs₁ : (0 : ℤ) ≤ s₁ := Int.natCast_nonneg s₁
  have hr₀ : (0 : ℤ) ≤ r₀ := Int.natCast_nonneg r₀
  have hr₁ : (0 : ℤ) ≤ r₁ := Int.natCast_nonneg r₁
  have hlarge : 0 < b → (bound : ℤ) < b * s₁ := by
    intro hb
    have hle : (s₁ : ℤ) ≤ b * s₁ := le_mul_of_one_le_left hs₁ hb
    omega
  rcases lt_trichotomy a 0 with ha | rfl | ha
  · have hb : 0 ≤ b := by
      by_contra hb
      linarith [mul_nonpos_of_nonpos_of_nonneg ha.le hs₀,
        mul_nonpos_of_nonpos_of_nonneg (not_le.1 hb).le hs₁]
    have hfirst : (r₀ : ℤ) ≤ -a * r₀ := le_mul_of_one_le_left hr₀ (by omega)
    exact le_trans (by linarith [mul_nonneg hb hr₁]) (le_abs_self _)
  · have hb : 0 < b := by
      by_contra hb
      linarith [mul_nonpos_of_nonpos_of_nonneg (not_lt.1 hb) hs₁]
    linarith [hlarge hb]
  · have hb : b ≤ 0 := by
      by_contra hb
      linarith [hlarge (not_le.1 hb), mul_nonneg ha.le hs₀]
    have hfirst : (r₀ : ℤ) ≤ a * r₀ := le_mul_of_one_le_left hr₀ ha
    exact le_trans (by linarith [mul_nonpos_of_nonpos_of_nonneg hb hr₁]) (neg_le_abs _)

end Combinations

/-- What is left of a combination that is not zero, with a multiplier within the bound, is no less
than what the algorithm leaves. -/
theorem closest_le (bound fuel : ℕ) : ∀ {r₀ r₁ s₀ s₁ : ℕ} {a b : ℤ}, 0 < a * s₀ + b * s₁ →
    a * s₀ + b * s₁ ≤ bound → b * r₁ ≠ a * r₀ →
    (closest bound fuel r₀ r₁ s₀ s₁ : ℤ) ≤ |b * r₁ - a * r₀| := by
  induction fuel with
  | zero =>
    intro r₀ r₁ s₀ s₁ a b _ _ _
    exact abs_nonneg _
  | succ fuel ih =>
    intro r₀ r₁ s₀ s₁ a b hpos hbound hne
    rw [closest]
    split
    · next hstop =>
      rcases hstop with hbeyond | rfl
      · exact le_abs_sub_of_beyond hbeyond hpos hbound
      · have ha : a ≠ 0 := by
          rintro rfl
          simp at hne
        rw [Nat.cast_zero, mul_zero, zero_sub, abs_neg, abs_mul, Nat.abs_cast]
        exact le_mul_of_one_le_left (Int.natCast_nonneg r₀) (Int.one_le_abs ha)
    · -- One division makes of it a combination of the next two remainders, of the other sign.
      have hsplit : (r₀ : ℤ) = r₁ * (r₀ / r₁ : ℕ) + (r₀ % r₁ : ℕ) := by
        exact_mod_cast (Nat.div_add_mod r₀ r₁).symm
      have hmultiplier : (b - a * (r₀ / r₁ : ℕ)) * s₁ + a * (s₀ + r₀ / r₁ * s₁ : ℕ) =
          a * s₀ + b * s₁ := by
        push_cast
        ring
      have hremainder : a * (r₀ % r₁ : ℕ) - (b - a * (r₀ / r₁ : ℕ)) * r₁ =
          -(b * r₁ - a * r₀) := by
        rw [hsplit]
        ring
      have hnext := @ih r₁ (r₀ % r₁) s₁ (s₀ + r₀ / r₁ * s₁) (b - a * (r₀ / r₁ : ℕ)) a
        (hmultiplier ▸ hpos) (hmultiplier ▸ hbound) (fun heq => hne (by linarith))
      rwa [hremainder, abs_neg] at hnext

/-! ## Half steps and grids -/

/-- The exponent of a grid: every power of ten that is about `2 ^ e` at least is on it. -/
def gridExponent (e : ℤ) : ℤ := -(-e * 1233 / 4096)

/-- The spacing of the grid, in units that make whole numbers of it and of half a step. -/
def gridUnits (e : ℤ) : ℕ := tenPow (gridExponent e).toNat * twoPow (1 - e).toNat

/-- Half a step in the same units. -/
def halfStepUnits (e : ℤ) : ℕ := twoPow (e - 1).toNat * tenPow (-gridExponent e).toNat

/-- The points of the grid below `2 ^ (e + 24)`, the end of the magnitudes. -/
def gridBound (e : ℤ) : ℕ := 2 ^ 25 * halfStepUnits e / gridUnits e

/-- How near a point of the grid comes to a half step that it does not meet. -/
def leftOver (bound : ℕ) (e : ℤ) : ℕ := closest bound 64 (halfStepUnits e) (gridUnits e) 0 1

theorem gridUnits_pos (e : ℤ) : 0 < gridUnits e :=
  Nat.mul_pos (Nat.pow_pos (by decide)) (Nat.pow_pos (by decide))

theorem halfStepUnits_pos (e : ℤ) : 0 < halfStepUnits e :=
  Nat.mul_pos (Nat.pow_pos (by decide)) (Nat.pow_pos (by decide))

theorem leftOver_le {bound : ℕ} {e c n : ℤ} (hc : c ≠ 0) (hbound : |c| ≤ bound)
    (hne : c * gridUnits e ≠ n * halfStepUnits e) :
    (leftOver bound e : ℤ) ≤ |c * gridUnits e - n * halfStepUnits e| := by
  unfold leftOver
  generalize gridUnits e = A at *
  generalize halfStepUnits e = B at *
  rcases lt_or_gt_of_ne hc with hneg | hpos
  · rw [abs_of_neg hneg] at hbound
    have hle := @closest_le bound 64 B A 0 1 (-n) (-c) (by omega) (by omega)
      (fun heq => hne (by linarith))
    rwa [neg_mul, neg_mul, ← neg_sub', abs_neg] at hle
  · rw [abs_of_pos hpos] at hbound
    exact @closest_le bound 64 B A 0 1 n c (by omega) (by omega) hne

/-- A point of the grid that is within `2 ^ -29` of a half step without meeting it. -/
structure NearMiss (e c n : ℤ) : Prop where
  pos : 0 < c
  lt : c * gridUnits e < 2 ^ 25 * halfStepUnits e
  ne : c * gridUnits e ≠ n * halfStepUnits e
  near : 2 ^ 29 * |c * gridUnits e - n * halfStepUnits e| ≤ halfStepUnits e

namespace NearMiss

variable {e c n d k : ℤ}

/-- Two near misses that are not far from each other differ by a meeting. -/
theorem difference (h : NearMiss e c n) (h' : NearMiss e d k) {bound : ℕ} (hbound : |c - d| ≤ bound)
    (hleft : 2 * halfStepUnits e < 2 ^ 29 * leftOver bound e) :
    (c - d) * gridUnits e = (n - k) * halfStepUnits e := by
  have hnear : 2 ^ 29 * |(c - d) * gridUnits e - (n - k) * halfStepUnits e| ≤
      2 * halfStepUnits e := by
    rw [show (c - d) * (gridUnits e : ℤ) - (n - k) * halfStepUnits e =
      (c * gridUnits e - n * halfStepUnits e) - (d * gridUnits e - k * halfStepUnits e) by ring]
    linarith [abs_sub (c * gridUnits e - n * halfStepUnits e)
      (d * gridUnits e - k * halfStepUnits e), h.near, h'.near]
  by_contra hne
  rcases eq_or_ne c d with rfl | hcd
  · have hnk : n - k ≠ 0 := by
      intro hnk
      simp [hnk] at hne
    rw [sub_self, zero_mul, zero_sub, abs_neg, abs_mul, Nat.abs_cast] at hnear
    have hhalf := halfStepUnits_pos e
    have hle : (halfStepUnits e : ℤ) ≤ |n - k| * halfStepUnits e :=
      le_mul_of_one_le_left (Int.natCast_nonneg _) (Int.one_le_abs hnk)
    omega
  · have hle := leftOver_le (sub_ne_zero.2 hcd) hbound hne
    omega

theorem lt_leftOver : ∀ e, -149 ≤ e → e < 105 → e ≠ -107 →
    halfStepUnits e < 2 ^ 29 * leftOver (gridBound e) e := by
  decide +kernel

theorem only : NearMiss (-107) 7038531 22841339 :=
  ⟨by decide +kernel, by decide +kernel, by decide +kernel, by decide +kernel⟩

/-- There is one near miss on all the grids of the format. -/
theorem unique (h : NearMiss e c n) (hmin : -149 ≤ e) (hmax : e < 105) :
    e = -107 ∧ c = 7038531 ∧ n = 22841339 := by
  have hpos := h.pos
  have hbound : c ≤ gridBound e := by
    rw [gridBound, Int.natCast_ediv]
    exact Int.le_ediv_of_mul_le (by exact_mod_cast gridUnits_pos e) (by exact_mod_cast h.lt.le)
  rcases eq_or_ne e (-107) with rfl | he
  · have hgrid : gridUnits (-107) = 2 ^ 108 := by decide +kernel
    have hhalf : halfStepUnits (-107) = 10 ^ 32 := by decide +kernel
    have hend : gridBound (-107) = 10339757 := by decide +kernel
    have happart : |c - 7038531| ≤ (7038530 : ℕ) := abs_le.2 (by omega)
    have hmeet := h.difference only happart (by decide +kernel)
    rw [hgrid, hhalf] at hmeet
    push_cast at hmeet
    have hdvd : (5 ^ 32 : ℤ) ∣ (c - 7038531) * 2 ^ 108 :=
      ⟨(n - 22841339) * 2 ^ 32, by linarith⟩
    have hcoprime : Int.gcd (5 ^ 32) (2 ^ 108) = 1 := by decide +kernel
    have hc : c - 7038531 = 0 :=
      Int.eq_zero_of_abs_lt_dvd (Int.dvd_of_dvd_mul_left_of_gcd_one hdvd hcoprime)
        (happart.trans_lt (by decide))
    rw [hc, zero_mul, eq_comm, mul_eq_zero] at hmeet
    exact ⟨rfl, sub_eq_zero.1 hc, sub_eq_zero.1 (hmeet.resolve_right (by decide))⟩
  · have hleft := lt_leftOver e hmin hmax he
    have hle := leftOver_le hpos.ne' (by rwa [abs_of_pos hpos]) h.ne
    have hnear := h.near
    omega

end NearMiss

/-- The power of ten below the grid of an exponent is a little less than the exponent's step. -/
theorem gridUnits_lt : ∀ e, -149 ≤ e → e < 105 →
    2 ^ 29 * gridUnits e + 20 * halfStepUnits e < 2 ^ 29 * (20 * halfStepUnits e) := by
  decide +kernel

end HelpQuery
