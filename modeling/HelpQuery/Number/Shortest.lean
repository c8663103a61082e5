import HelpQuery.Number.Binary

/-!
# Shortest decimal digits

The reals that round to a magnitude form an interval around it.  The digits printed for it are
those of the coarsest power-of-ten grid that has a point in the interval: fewer digits cannot read
back.  Of two such points the nearer is taken, and an exact tie is left to the caller.
-/

namespace HelpQuery

/-- Which of two equally near decimals is printed. -/
inductive TieBreak where
  | up
  | toEven
  deriving DecidableEq, Repr

/-- An interval of reals around a centre, all three over one denominator. -/
structure Neighbourhood where
  low : Nat
  centre : Nat
  high : Nat
  den : Nat
  /-- Whether the two ends belong to the interval. -/
  closed : Bool
  deriving Repr

/-- The digits and the power of ten of a printed decimal. -/
structure Digits where
  digits : Nat
  exponent : Int
  deriving DecidableEq, Repr

namespace Neighbourhood

/-- The reals that round to a magnitude, in quarters of its last place.  Below a power of two the
gap is half as wide; the ends round to the magnitude exactly when its last bit is even. -/
def ofMagnitude {F : Format} (x : Magnitude F) : Neighbourhood :=
  let m := x.mantissa
  let below := if m = twoPow (F.precision - 1) ∧ F.minExp < x.exponent then 1 else 2
  let scale := twoPow (x.exponent - 2).toNat
  { low := (4 * m - below) * scale
    centre := 4 * m * scale
    high := (4 * m + 2) * scale
    den := twoPow (2 - x.exponent).toNat
    closed := m % 2 == 0 }

/-- Whether `c · 10 ^ g` lies in the interval. -/
def contains (s : Neighbourhood) (c : Nat) (g : Int) : Bool :=
  let x := c * tenPow g.toNat * s.den
  let y := tenPow (-g).toNat
  if s.closed then s.low * y ≤ x && x ≤ s.high * y else s.low * y < x && x < s.high * y

/-- The best point of the grid `10 ^ g` in the interval, looking at the centre's two neighbours. -/
def pointOn? (s : Neighbourhood) (tie : TieBreak) (g : Int) : Option Nat :=
  let num := s.centre * tenPow (-g).toNat
  let den := s.den * tenPow g.toNat
  let c := num / den
  let r := num % den
  let lower := s.contains c g
  let upper := s.contains (c + 1) g
  if lower && upper then
    if 2 * r < den then some c
    else if den < 2 * r then some (c + 1)
    else match tie with
      | .up => some (c + 1)
      | .toEven => some (c + c % 2)
  else if lower then some c
  else if upper then some (c + 1)
  else none

/-- The first grid with a point, going down from `10 ^ g` for at most `steps` grids more. -/
def coarsest (s : Neighbourhood) (tie : TieBreak) : Nat → Int → Digits
  | 0, g => ⟨(s.pointOn? tie g).getD 0, g⟩
  | steps + 1, g =>
    match s.pointOn? tie g with
    | some c => ⟨c, g⟩
    | none => coarsest s tie steps (g - 1)

end Neighbourhood

/-- The shortest decimal that reads back as the magnitude.

The search starts at a power of ten above the magnitude and ends at the latest at one of which the
magnitude is a multiple. -/
def Magnitude.shortest {F : Format} (tie : TieBreak) (x : Magnitude F) : Digits :=
  if x.mantissa = 0 then ⟨0, 0⟩
  else
    let top := max 0 (x.exponent + F.precision)
    (Neighbourhood.ofMagnitude x).coarsest tie (top - min 0 x.exponent).toNat top

end HelpQuery
