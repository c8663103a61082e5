/-!
# Sets of characters

A set is a list of ranges of code points, ends included, in ascending order.  The tables of
characters in this library follow version 17 of the Unicode standard.
-/

namespace HelpQuery.Text

/-- Ascending, disjoint ranges of code points. -/
abbrev Ranges := List (Nat × Nat)

/-- Whether a code point lies in one of the ranges; a range that starts above it ends the search. -/
def Ranges.has (n : Nat) : Ranges → Bool
  | [] => false
  | (low, high) :: rest => if n < low then false else n ≤ high || Ranges.has n rest

/-- A run of characters `low, low + step, …, high` mapped to `target, target + step, …`. -/
structure CaseRun where
  low : Nat
  high : Nat
  step : Nat
  target : Nat
  deriving Repr

/-- The image of a code point under ascending runs, if one of them holds it. -/
def CaseRun.image? (n : Nat) : List CaseRun → Option Nat
  | [] => none
  | run :: rest =>
    if n < run.low then none
    else if n ≤ run.high ∧ (n - run.low) % run.step = 0 then some (run.target + (n - run.low))
    else CaseRun.image? n rest

end HelpQuery.Text
