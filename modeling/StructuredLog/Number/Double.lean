import StructuredLog.Number.Power

set_option autoImplicit false

namespace StructuredLog.Number

-- Values built here are normal (`2 ^ 52 ≤ mantissa < 2 ^ 53`) or have the least exponent.
structure Double where
  negative : Bool
  mantissa : Nat
  exponent : Int
deriving DecidableEq, Repr

structure Width where
  digits : Nat
  least : Int
  greatest : Int
deriving DecidableEq, Repr

def binary64 : Width := ⟨53, -1074, 971⟩
def binary32 : Width := ⟨24, -149, 104⟩

namespace Double

def leastExponent : Int := binary64.least

def zero (negative : Bool) : Double := ⟨negative, 0, leastExponent⟩

def isZero (x : Double) : Bool := x.mantissa == 0

def negate (x : Double) : Double := { x with negative := !x.negative }

def roundDiv (num den : Nat) : Nat :=
  let q := num / den
  let r := num % den
  if 2 * r < den then q else if den < 2 * r then q + 1 else q + q % 2

def inUnits (num den : Nat) (e : Int) : Nat × Nat :=
  if 0 ≤ e then (num, den * twoPow e.toNat) else (num * twoPow (-e).toNat, den)

def unitExponent (w : Width) (num den : Nat) : Int :=
  let guess : Int := (Nat.log2 num : Int) - Nat.log2 den - (w.digits - 1 : Nat)
  let (n, d) := inUnits num den guess
  max w.least (if n / d < twoPow (w.digits - 1) then guess - 1 else guess)

def roundTo (w : Width) (negative : Bool) (num den : Nat) : Option Double :=
  if num = 0 then some (zero negative)
  else
    let e := unitExponent w num den
    let (n, d) := inUnits num den e
    let m := roundDiv n d
    let (m, e) := if m = twoPow w.digits then (twoPow (w.digits - 1), e + 1) else (m, e)
    if w.greatest < e then none else some ⟨negative, m, e⟩

def round (negative : Bool) (num den : Nat) : Option Double := roundTo binary64 negative num den

def magnitude (x : Double) : Nat × Nat :=
  if 0 ≤ x.exponent then (x.mantissa * twoPow x.exponent.toNat, 1)
  else (x.mantissa, twoPow (-x.exponent).toNat)

def mul (x y : Double) : Option Double :=
  let (a, b) := x.magnitude
  let (c, d) := y.magnitude
  round (x.negative != y.negative) (a * c) (b * d)

def div (x y : Double) : Option Double :=
  let (a, b) := x.magnitude
  let (c, d) := y.magnitude
  round (x.negative != y.negative) (a * d) (b * c)

def ofNat (n : Nat) : Option Double := round false n 1

def ofTenPow (k : Nat) : Option Double := round false (tenPow k) 1

end Double

end StructuredLog.Number
