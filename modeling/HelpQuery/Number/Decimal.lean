import HelpQuery.Number.Binary

/-!
# Decimal numerals

A numeral is a sign, a whole number of digits and a power of ten.  `toBinary` rounds its exact
value once; powers of ten far outside the format are settled without being computed.
-/

namespace HelpQuery

/-- The number `digits · 10 ^ exponent` with a sign. -/
structure Decimal where
  negative : Bool
  digits : Nat
  exponent : Int
  deriving DecidableEq, Repr

namespace Decimal

/-- The whole number written by a run of digits. -/
def ofDigits (cs : List Char) : Nat :=
  cs.foldl (fun n c => 10 * n + (c.toNat - '0'.toNat)) 0

/-- The numeral with whole part, fraction part and exponent given as digit runs. -/
def ofParts (negative : Bool) (whole fraction : List Char) (exponent : Int) : Decimal :=
  ⟨negative, ofDigits (whole ++ fraction), exponent - fraction.length⟩

/-- The numeral's value, rounded once to the nearest value of the format.

`10 ^ k` is at least `2 ^ k`, so a large exponent is beyond every magnitude; and `digits` is less
than `10 ^ (log2 digits / 3 + 1)`, so a small enough exponent is below half the least one. -/
def toBinary {F : Format} (x : Decimal) : Binary F :=
  if x.digits = 0 then .ofFraction x.negative 0 1
  else if F.maxExp + F.precision ≤ x.exponent then .infinite x.negative
  else if x.exponent + (x.digits.log2 / 3 + 1 : Nat) < F.minExp then .ofFraction x.negative 0 1
  else .ofFraction x.negative (x.digits * tenPow x.exponent.toNat) (tenPow (-x.exponent).toNat)

/-! ## Reading -/

/-- A leading sign and what follows it; no sign means plus. -/
def splitSign : List Char → Bool × List Char
  | '-' :: r => (true, r)
  | '+' :: r => (false, r)
  | r => (false, r)

/-- An exponent part: nothing, or `e` and a whole number with an optional sign. -/
def readExponent? : List Char → Option Int
  | [] => some 0
  | c :: r =>
    if c = 'e' ∨ c = 'E' then
      let (negative, ds) := splitSign r
      if ds ≠ [] ∧ ds.all Char.isDigit then
        some (if negative then -(ofDigits ds : Int) else ofDigits ds)
      else none
    else none

/-- Digits, an optional point and more digits, at least one digit in all, and an exponent. -/
def read? (text : List Char) : Option Decimal :=
  let (negative, body) := splitSign text
  let whole := body.takeWhile Char.isDigit
  let rest := body.dropWhile Char.isDigit
  let (fraction, tail) := match rest with
    | '.' :: r => (r.takeWhile Char.isDigit, r.dropWhile Char.isDigit)
    | r => ([], r)
  if whole = [] ∧ fraction = [] then none
  else (readExponent? tail).map (ofParts negative whole fraction)

end Decimal

/-- The value a text denotes: a decimal numeral, `inf`, `infinity` or `nan` in any case. -/
def Binary.read? {F : Format} (text : String) : Option (Binary F) :=
  let (negative, body) := Decimal.splitSign text.toList
  let name := body.map Char.toLower
  if name = "inf".toList ∨ name = "infinity".toList then some (.infinite negative)
  else if name = "nan".toList then some .nan
  else (Decimal.read? text.toList).map Decimal.toBinary

end HelpQuery
