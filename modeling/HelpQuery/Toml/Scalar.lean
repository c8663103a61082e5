import HelpQuery.Number.Decimal
import HelpQuery.Text.Segments
import HelpQuery.Toml.Value

/-!
# TOML scalars

Booleans, integers, floats, dates and times, all read from a text that holds nothing else.
-/

namespace HelpQuery.Toml

/-- The digits of a number whose digits may be separated by single underscores. -/
def ungroup? (isDigit : Char → Bool) (cs : List Char) : Option (List Char) :=
  let groups := segments (· == '_') cs
  if groups.all fun g => g ≠ [] && g.all isDigit then some groups.flatten else none

/-- Decimal digits without a leading zero. -/
def decimalDigits? (cs : List Char) : Option (List Char) :=
  match ungroup? Char.isDigit cs with
  | some ('0' :: _ :: _) => none
  | digits => digits

/-! ## Integers -/

/-- The value of a digit in a base up to sixteen. -/
def digitIn? (base : Nat) (c : Char) : Option Nat :=
  let value :=
    if c.isDigit then c.toNat - '0'.toNat
    else if 'a' ≤ c ∧ c ≤ 'f' then c.toNat - 'a'.toNat + 10
    else if 'A' ≤ c ∧ c ≤ 'F' then c.toNat - 'A'.toNat + 10
    else base
  if value < base then some value else none

/-- The whole number written by digits of a base. -/
def natIn? (base : Nat) (cs : List Char) : Option Nat :=
  (ungroup? (fun c => (digitIn? base c).isSome) cs).map fun ds =>
    ds.foldl (fun n c => base * n + (digitIn? base c).getD 0) 0

/-- An integer of any size. -/
def integer? (cs : List Char) : Option Int :=
  match cs with
  | '0' :: 'x' :: ds => (natIn? 16 ds).map Int.ofNat
  | '0' :: 'o' :: ds => (natIn? 8 ds).map Int.ofNat
  | '0' :: 'b' :: ds => (natIn? 2 ds).map Int.ofNat
  | _ =>
    let (negative, ds) := Decimal.splitSign cs
    (decimalDigits? ds).map fun digits =>
      let n : Int := Decimal.ofDigits digits
      if negative then -n else n

/-- The value of an integer, which has 128 bits at most, with or without a sign. -/
def ofInt (n : Int) : Toml :=
  if -(twoPow 127 : Int) ≤ n ∧ n < twoPow 128 then .integer n else .unrepresentable

/-! ## Floats -/

/-- The exponent of a float, `e` included. -/
def exponent? : List Char → Option Int
  | [] => some 0
  | c :: rest =>
    if c = 'e' ∨ c = 'E' then
      let (negative, ds) := Decimal.splitSign rest
      (ungroup? Char.isDigit ds).map fun digits =>
        let n : Int := Decimal.ofDigits digits
        if negative then -n else n
    else none

/-- A float with a fraction or an exponent. -/
def numeral? (cs : List Char) : Option Decimal :=
  let (negative, body) := Decimal.splitSign cs
  let isMantissaChar (c : Char) : Bool := c != 'e' && c != 'E'
  let mantissa := body.takeWhile isMantissaChar
  let tail := body.dropWhile isMantissaChar
  match segments (· == '.') mantissa with
  | [whole] =>
    if tail = [] then none
    else do Decimal.ofParts negative (← decimalDigits? whole) [] (← exponent? tail)
  | [whole, fraction] => do
    Decimal.ofParts negative (← decimalDigits? whole) (← ungroup? Char.isDigit fraction)
      (← exponent? tail)
  | _ => none

/-- A float; a numeral beyond the greatest finite value does not stand for an infinity. -/
def float? (cs : List Char) : Option Toml :=
  let (negative, body) := Decimal.splitSign cs
  if body = "inf".toList then some (.float (.infinite negative))
  else if body = "nan".toList then some (.float .nan)
  else (numeral? cs).map fun d =>
    let x : Double := d.toBinary
    if x.isFinite then .float x else .unrepresentable

/-! ## Dates and times -/

/-- A number of two digits. -/
def two? : List Char → Option Nat
  | [a, b] => if a.isDigit ∧ b.isDigit then some (Decimal.ofDigits [a, b]) else none
  | _ => none

def isLeapYear (year : Nat) : Bool := year % 4 == 0 && (year % 100 != 0 || year % 400 == 0)

def daysIn (year month : Nat) : Nat :=
  if month = 2 then if isLeapYear year then 29 else 28
  else if month ∈ [4, 6, 9, 11] then 30 else 31

/-- A date of the calendar, `YYYY-MM-DD`. -/
def isDate (cs : List Char) : Bool :=
  match segments (· == '-') cs with
  | [year, month, day] =>
    year.length == 4 && year.all Char.isDigit &&
      match two? month, two? day with
      | some m, some d =>
        1 ≤ m && m ≤ 12 && 1 ≤ d && d ≤ daysIn (Decimal.ofDigits year) m
      | _, _ => false
  | _ => false

/-- Seconds with an optional fraction; a leap second is allowed. -/
def isSeconds (cs : List Char) : Bool :=
  let inMinute (s : List Char) : Bool := (two? s).elim false (· ≤ 60)
  match segments (· == '.') cs with
  | [s] => inMinute s
  | [s, fraction] => inMinute s && fraction ≠ [] && fraction.all Char.isDigit
  | _ => false

def isHourMinute (hour minute : List Char) : Bool :=
  (two? hour).elim false (· ≤ 23) && (two? minute).elim false (· ≤ 59)

/-- A time of the day; the seconds may be left out. -/
def isTime (cs : List Char) : Bool :=
  match segments (· == ':') cs with
  | [hour, minute] => isHourMinute hour minute
  | [hour, minute, second] => isHourMinute hour minute && isSeconds second
  | _ => false

/-- A distance from universal time, after its sign. -/
def isOffset (cs : List Char) : Bool :=
  match segments (· == ':') cs with
  | [hour, minute] => isHourMinute hour minute
  | _ => false

/-- A time of the day with an optional offset. -/
def isOffsetTime (cs : List Char) : Bool :=
  match cs.getLast? with
  | some c =>
    if c = 'Z' ∨ c = 'z' then isTime cs.dropLast
    else match segments (fun c => c == '+' || c == '-') cs with
      | [time] => isTime time
      | [time, offset] => isTime time && isOffset offset
      | _ => false
  | none => false

/-- A date, a time, or a date and a time with `T` or a blank between them. -/
def isDateTime (cs : List Char) : Bool :=
  isTime cs || isDate cs ||
    (isDate (cs.take 10) &&
      match cs.drop 10 with
      | c :: time => (c == 'T' || c == 't' || c == ' ') && isOffsetTime time
      | [] => false)

/-! ## Scalars -/

/-- The characters a scalar is made of. -/
def isScalarChar (c : Char) : Bool :=
  c.isAlphanum || c == '_' || c == '+' || c == '-' || c == '.' || c == ':'

def scalar? (cs : List Char) : Option Toml :=
  if cs = "true".toList then some (.boolean true)
  else if cs = "false".toList then some (.boolean false)
  else match integer? cs with
    | some n => some (.ofInt n)
    | none =>
      match float? cs with
      | some v => some v
      | none => if isDateTime cs then some (.dateTime (String.ofList cs)) else none

/-- The text of a scalar and what follows it; after a date it may go on behind a single blank. -/
def splitScalar (cs : List Char) : List Char × List Char :=
  let first := cs.takeWhile isScalarChar
  let rest := cs.dropWhile isScalarChar
  match rest with
  | ' ' :: d :: _ =>
    if isDate first ∧ d.isDigit then
      (first ++ ' ' :: (rest.drop 1).takeWhile isScalarChar, (rest.drop 1).dropWhile isScalarChar)
    else (first, rest)
  | _ => (first, rest)

end HelpQuery.Toml
