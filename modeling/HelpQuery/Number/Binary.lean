import HelpQuery.Number.Power

/-!
# Binary floating-point values

A value is not a number, an infinity, or a signed magnitude `m · 2 ^ e` in canonical form, so two
finite values are equal exactly when sign, `m` and `e` are.  Every operation computes the exact
fraction first and rounds once, to the nearest value and a half to the even one:

    Binary.mul x y = the exact product, rounded once
    Binary.add x y = the exact sum, rounded once
    Binary.convert F x = the exact value of x, rounded once into the format F
-/

namespace HelpQuery

/-! ## Formats -/

/-- A binary format: magnitudes `m · 2 ^ e` with `m < 2 ^ precision` and `minExp ≤ e ≤ maxExp`. -/
structure Format where
  precision : Nat
  minExp : Int
  maxExp : Int
  deriving DecidableEq, Repr

namespace Format

/-- The 32-bit format. -/
def single : Format := ⟨24, -149, 104⟩

/-- The 64-bit format. -/
def double : Format := ⟨53, -1074, 971⟩

/-- `m · 2 ^ e` is in range, and `m` has its leading bit unless `e` is the least exponent. -/
def Canonical (F : Format) (m : Nat) (e : Int) : Prop :=
  m < twoPow F.precision ∧ F.minExp ≤ e ∧ e ≤ F.maxExp ∧
    (e = F.minExp ∨ twoPow (F.precision - 1) ≤ m)

instance (F : Format) (m : Nat) (e : Int) : Decidable (F.Canonical m e) :=
  inferInstanceAs (Decidable (_ ∧ _))

end Format

/-! ## Fractions -/

/-- The numerator and denominator of `num / den / 2 ^ e`. -/
def scaleDown (num den : Nat) (e : Int) : Nat × Nat :=
  (num * twoPow (-e).toNat, den * twoPow e.toNat)

/-- The exponent of the greatest power of two that is at most `num / den`, for positive `num`. -/
def floorLog2 (num den : Nat) : Int :=
  let e : Int := (num.log2 : Int) - den.log2
  let (n, d) := scaleDown num den e
  if n < d then e - 1 else e

/-- The whole number nearest to `num / den`; a half goes to the even neighbour. -/
def roundHalfEven (num den : Nat) : Nat :=
  let q := num / den
  let r := num % den
  if 2 * r < den then q else if den < 2 * r then q + 1 else q + q % 2

/-! ## Magnitudes -/

/-- A finite magnitude of a format, in canonical form. -/
structure Magnitude (F : Format) where
  mantissa : Nat
  exponent : Int
  canonical : F.Canonical mantissa exponent
  deriving DecidableEq

namespace Magnitude

variable {F : Format}

/-- The magnitude `m · 2 ^ e`, if that is a canonical form of the format. -/
def ofParts? (m : Nat) (e : Int) : Option (Magnitude F) :=
  if h : F.Canonical m e then some ⟨m, e, h⟩ else none

/-- The magnitude nearest to `num / den`, or `none` beyond the greatest one. -/
def round? (num den : Nat) : Option (Magnitude F) :=
  if num = 0 then ofParts? 0 F.minExp
  else
    let e := max F.minExp (floorLog2 num den - (F.precision - 1 : Nat))
    let (n, d) := scaleDown num den e
    let m := roundHalfEven n d
    if m = twoPow F.precision then ofParts? (twoPow (F.precision - 1)) (e + 1) else ofParts? m e

/-- The magnitude counted in steps of `2 ^ minExp`. -/
def steps (x : Magnitude F) : Nat := x.mantissa * twoPow (x.exponent - F.minExp).toNat

end Magnitude

/-! ## Values -/

/-- A floating-point value of a format. -/
inductive Binary (F : Format) where
  | nan
  | infinite (negative : Bool)
  | finite (negative : Bool) (magnitude : Magnitude F)
  deriving DecidableEq

namespace Binary

variable {F : Format}

/-- `num / den` with a sign, rounded to the nearest value; beyond the greatest it is infinite. -/
def ofFraction (negative : Bool) (num den : Nat) : Binary F :=
  match Magnitude.round? num den with
  | some m => finite negative m
  | none => infinite negative

def ofNat (n : Nat) : Binary F := ofFraction false n 1

def ofInt (n : Int) : Binary F := ofFraction (n < 0) n.natAbs 1

def isFinite : Binary F → Bool
  | finite _ _ => true
  | _ => false

/-- Greater than zero; both zeros are not. -/
def isPositive : Binary F → Bool
  | nan => false
  | infinite negative => !negative
  | finite negative m => !negative && m.mantissa != 0

/-- The product, rounded once; zero times an infinity is not a number. -/
def mul : Binary F → Binary F → Binary F
  | nan, _ => nan
  | _, nan => nan
  | infinite s, infinite t => infinite (s != t)
  | infinite s, finite t m => if m.mantissa = 0 then nan else infinite (s != t)
  | finite s m, infinite t => if m.mantissa = 0 then nan else infinite (s != t)
  | finite s m, finite t n =>
    let e := m.exponent + n.exponent
    ofFraction (s != t) (m.mantissa * n.mantissa * twoPow e.toNat) (twoPow (-e).toNat)

instance : Mul (Binary F) := ⟨mul⟩

/-- The quotient, rounded once.  A number over zero is infinite, and neither zero over zero nor
infinity over infinity is a number. -/
def div : Binary F → Binary F → Binary F
  | nan, _ => nan
  | _, nan => nan
  | infinite _, infinite _ => nan
  | infinite s, finite t _ => infinite (s != t)
  | finite s _, infinite t => ofFraction (s != t) 0 1
  | finite s m, finite t n =>
    if n.mantissa = 0 then if m.mantissa = 0 then nan else infinite (s != t)
    else
      let e := m.exponent - n.exponent
      ofFraction (s != t) (m.mantissa * twoPow e.toNat) (n.mantissa * twoPow (-e).toNat)

instance : Div (Binary F) := ⟨div⟩

/-- Finite values by their signed distance from zero, in steps of the least exponent. -/
def signedSteps (negative : Bool) (m : Magnitude F) : Int :=
  if negative then -(m.steps : Int) else m.steps

/-- The value that is a whole number of steps of the least exponent away from zero, rounded; a zero
has the sign given. -/
def ofSignedSteps (negativeZero : Bool) (n : Int) : Binary F :=
  ofFraction (if n = 0 then negativeZero else n < 0) (n.natAbs * twoPow F.minExp.toNat)
    (twoPow (-F.minExp).toNat)

/-- The sum, rounded once; infinities of both signs add up to no number. -/
def add : Binary F → Binary F → Binary F
  | nan, _ => nan
  | _, nan => nan
  | infinite s, infinite t => if s = t then infinite s else nan
  | infinite s, finite _ _ => infinite s
  | finite _ _, infinite t => infinite t
  | finite s m, finite t n => ofSignedSteps (s && t) (signedSteps s m + signedSteps t n)

instance : Add (Binary F) := ⟨add⟩

/-- The value of the other sign. -/
def neg : Binary F → Binary F
  | nan => nan
  | infinite s => infinite !s
  | finite s m => finite (!s) m

instance : Neg (Binary F) := ⟨neg⟩

/-- At most; nothing is comparable with what is not a number, and the two zeros are equal. -/
def le : Binary F → Binary F → Bool
  | nan, _ => false
  | _, nan => false
  | infinite s, infinite t => s || !t
  | infinite s, finite _ _ => s
  | finite _ _, infinite t => !t
  | finite s m, finite t n => decide (signedSteps s m ≤ signedSteps t n)

/-- Numerically equal: at most in both directions. -/
def same (x y : Binary F) : Bool := x.le y && y.le x

/-- Less: at most in one direction alone. -/
def lt (x y : Binary F) : Bool := x.le y && !y.le x

/-- The same value in another format, rounded once. -/
def convert (G : Format) : Binary F → Binary G
  | nan => nan
  | infinite s => infinite s
  | finite s m =>
    ofFraction s (m.mantissa * twoPow m.exponent.toNat) (twoPow (-m.exponent).toNat)

end Binary

/-- A 32-bit value, the type of every boost. -/
abbrev Single := Binary Format.single

/-- The greatest finite 32-bit value. -/
def Single.greatest : Single := .finite false ⟨twoPow 24 - 1, 104, by decide⟩

/-- A 64-bit value, as floats in settings files are read. -/
abbrev Double := Binary Format.double

end HelpQuery
