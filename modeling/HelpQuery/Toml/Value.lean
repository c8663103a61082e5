import HelpQuery.Number.Binary

/-!
# TOML values

Dates and times are only checked, never looked at, so they are kept as text.  A numeral may be of
any size, but a value is readable only if each of its numbers fits a type of number.
-/

namespace HelpQuery

inductive Toml where
  | string (text : String)
  | integer (n : Int)
  | float (x : Double)
  /-- An integer or a finite float that no type of number holds. -/
  | unrepresentable
  | boolean (b : Bool)
  | dateTime (text : String)
  | array (items : List Toml)
  | table (entries : List (String × Toml))

namespace Toml

mutual

/-- Whether all numbers in a value can be looked at. -/
def readable : Toml → Bool
  | unrepresentable => false
  | array items => readableItems items
  | table entries => readableEntries entries
  | _ => true

def readableItems : List Toml → Bool
  | [] => true
  | item :: rest => item.readable && readableItems rest

def readableEntries : List (String × Toml) → Bool
  | [] => true
  | (_, v) :: rest => v.readable && readableEntries rest

end

end Toml

end HelpQuery
