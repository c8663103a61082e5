import HelpQuery.Number.Shortest

/-!
# Layouts of printed values

A layout holds the decisions of one output format: which powers of ten are written positionally,
how a whole value ends, and the spelling of what is not finite.  `Layout.write` places the
shortest digits accordingly.
-/

namespace HelpQuery

/-- How values are written. -/
structure Layout where
  /-- Whether a value whose leading digit stands at `10 ^ k` is written without an exponent. -/
  positional : Int → Bool
  /-- What follows a positional value without a fraction. -/
  wholeEnd : String
  tie : TieBreak
  notANumber : String
  infinity : String

namespace Layout

/-- The decimal digits of a whole number. -/
def digitChars (n : Nat) : List Char := Nat.toDigits 10 n

/-- Positional notation of `digits · 10 ^ exponent`. -/
def positionalText (wholeEnd : String) (d : Digits) : String :=
  let ds := digitChars d.digits
  if 0 ≤ d.exponent then
    String.ofList (ds ++ List.replicate d.exponent.toNat '0') ++ wholeEnd
  else
    let places := (-d.exponent).toNat
    if ds.length ≤ places then
      "0." ++ String.ofList (List.replicate (places - ds.length) '0' ++ ds)
    else
      String.ofList (ds.take (ds.length - places)) ++ "."
        ++ String.ofList (ds.drop (ds.length - places))

/-- The power of ten at which the leading digit stands. -/
def leading (d : Digits) : Int := d.exponent + ((digitChars d.digits).length - 1 : Nat)

/-- Exponent notation: one digit, the others after a point, and a signed power of ten. -/
def exponentText (d : Digits) : String :=
  let k := leading d
  let mantissa := match digitChars d.digits with
    | c :: r@(_ :: _) => String.ofList (c :: '.' :: r)
    | ds => String.ofList ds
  mantissa ++ (if 0 ≤ k then "e+" else "e-") ++ String.ofList (digitChars k.natAbs)

/-- The text of a value; every negative one, zero included, starts with a minus sign. -/
def write {F : Format} (layout : Layout) (x : Binary F) : String :=
  match x with
  | .nan => layout.notANumber
  | .infinite negative => (if negative then "-" else "") ++ layout.infinity
  | .finite negative m =>
    let d := m.shortest layout.tie
    (if negative then "-" else "") ++
      if d.digits = 0 || layout.positional (leading d) then positionalText layout.wholeEnd d
      else exponentText d

/-- Boosts in messages and query strings: positional always, whole values without a point. -/
def plain : Layout := ⟨fun _ => true, "", .up, "NaN", "inf"⟩

/-- Floats of settings files: positional always, whole values with `.0`. -/
def settings : Layout := ⟨fun _ => true, ".0", .up, "nan", "inf"⟩

/-- Numbers of JSON texts: positional from `10 ^ -6` up to `10 ^ 13`, whole values with `.0`. -/
def json : Layout := ⟨fun k => -6 ≤ k && k < 13, ".0", .toEven, "null", "null"⟩

end Layout

/-- A boost as it appears in query strings and messages. -/
def Single.text (x : Single) : String := Layout.plain.write x

end HelpQuery
