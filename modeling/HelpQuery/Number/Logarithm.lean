import HelpQuery.Number.Binary

/-!
# Natural logarithms

The logarithm of a positive value is computed in fixed point, far beyond the precision of the
formats, and rounded once.  A value `y · 2 ^ p` with `1 ≤ y < 2` is reduced to two inverse
hyperbolic tangents of arguments of at most a third:

    ln (y · 2 ^ p) = p · 2 artanh (1 / 3) + 2 artanh ((y - 1) / (y + 1))
-/

namespace HelpQuery

/-! ## Series -/

/-- The unit of fixed-point numbers is one over this. -/
def fixedOne : Nat := twoPow 160

/-- Adds up the terms of `x + x³ / 3 + x⁵ / 5 + …` from a power of `x` on, given `x²` and the
divisor of the first of them; every product and quotient is rounded down. -/
def artanhTerms (square : Nat) : Nat → Nat → Nat → Nat
  | 0, _, _ => 0
  | count + 1, divisor, power =>
    power / divisor + artanhTerms square count (divisor + 2) (power * square / fixedOne)

/-- The inverse hyperbolic tangent of `num / den` in fixed point.  For arguments of at most a third
the terms left out are below the unit. -/
def artanh (num den : Nat) : Nat :=
  let x := num * fixedOne / den
  artanhTerms (x * x / fixedOne) 64 1 x

/-! ## Values -/

namespace Magnitude

variable {F : Format}

/-- The natural logarithm of a positive magnitude in fixed point. -/
def fixedLn (x : Magnitude F) : Int :=
  let k := x.mantissa.log2
  let one := twoPow k
  2 * ((x.exponent + k) * artanh 1 3 + artanh (x.mantissa - one) (x.mantissa + one))

end Magnitude

namespace Binary

variable {F : Format}

/-- The natural logarithm, rounded once; that of zero is minus infinity, and negative values have
none. -/
def ln : Binary F → Binary F
  | nan => nan
  | infinite negative => if negative then nan else infinite false
  | finite negative m =>
    if m.mantissa = 0 then infinite true
    else if negative then nan
    else ofFraction (m.fixedLn < 0) m.fixedLn.natAbs fixedOne

end Binary

end HelpQuery
