import StructuredLog.Number.Text

set_option autoImplicit false

namespace StructuredLog.Number

-- An integer literal of 64 bits is an integer; any other literal is a binary64 number.
structure Literal where
  negative : Bool
  whole : List Nat
  fraction : Option (List Nat)
  exponent : Option Int
deriving DecidableEq, Repr

def accumulate (significand : Nat) : List Nat → Nat × Nat
  | [] => (significand, 0)
  | d :: ds =>
      if 10 * significand + d < wordBound then accumulate (10 * significand + d) ds
      else (significand, ds.length + 1)

def shrink (x : Double) (exponent : Nat) : Nat → Option Double
  | 0 => some (Double.zero false)
  | fuel + 1 =>
      if x.isZero then some x
      else if exponent ≤ 308 then (Double.ofTenPow exponent).bind x.div
      else (Double.ofTenPow 308).bind fun p => (x.div p).bind fun y => shrink y (exponent - 308) fuel

def scale (significand : Nat) (exponent : Int) : Option Double :=
  (Double.ofNat significand).bind fun x =>
    if x.isZero then some x
    else if exponent < 0 then shrink x exponent.natAbs 4
    else if 308 < exponent then none
    else (Double.ofTenPow exponent.toNat).bind x.mul

def Literal.double? (l : Literal) : Option Double :=
  let (whole, dropped) := accumulate 0 l.whole
  let fraction := l.fraction.getD []
  let (significand, unread) := accumulate whole fraction
  let exponent := (dropped : Int) - (fraction.length - unread : Nat) + l.exponent.getD 0
  (scale significand exponent).map fun x => if l.negative then x.negate else x

def Literal.value? (l : Literal) : Option Number :=
  let magnitude := (accumulate 0 l.whole).1
  let whole := (accumulate 0 l.whole).2 == 0 && l.fraction.isNone && l.exponent.isNone
  if whole && !l.negative then some (.int magnitude)
  else if whole && magnitude != 0 && magnitude ≤ twoPow 63 then some (.int (-magnitude))
  else l.double?.map .double

end StructuredLog.Number
