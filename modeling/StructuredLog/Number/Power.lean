set_option autoImplicit false

namespace StructuredLog.Number

def twoPow (n : Nat) : Nat := Nat.pow 2 n

def tenPow (n : Nat) : Nat := Nat.pow 10 n

def wordBound : Nat := twoPow 64

def unsigned? (i : Int) : Option Nat := if 0 ≤ i ∧ i < wordBound then some i.toNat else none

end StructuredLog.Number
