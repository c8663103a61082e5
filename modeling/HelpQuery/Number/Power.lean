/-!
# Powers of the bases

Powers of the base of binary values and of the base of decimal numerals.
-/

namespace HelpQuery

/-- Two to the power of `k`. -/
def twoPow (k : Nat) : Nat := Nat.pow 2 k

/-- Ten to the power of `k`. -/
def tenPow (k : Nat) : Nat := Nat.pow 10 k

end HelpQuery
