import StructuredLog.Number.Double

set_option autoImplicit false

namespace StructuredLog.Number

structure Decimal where
  digits : Nat
  exponent : Int
deriving DecidableEq, Repr

def Decimal.strip : Nat → Decimal → Decimal
  | 0, d => d
  | fuel + 1, d =>
      if d.digits ≠ 0 ∧ d.digits % 10 = 0 then strip fuel ⟨d.digits / 10, d.exponent + 1⟩ else d

def digitCount (n : Nat) : Nat := (Nat.toDigits 10 n).length

-- The ends `lo / den` and `hi / den` belong to the interval when the mantissa is even.
structure Interval where
  lo : Nat
  mid : Nat
  hi : Nat
  den : Nat
  closed : Bool
deriving DecidableEq, Repr

def Double.interval (x : Double) : Interval :=
  let m := x.mantissa
  let e := x.exponent - 2
  -- Below a power of two the neighbour is half as far as above it.
  let below := if m = twoPow 52 ∧ Double.leastExponent < x.exponent then 1 else 2
  let (scale, den) := if 0 ≤ e then (twoPow e.toNat, 1) else (1, twoPow (-e).toNat)
  ⟨(4 * m - below) * scale, 4 * m * scale, (4 * m + 2) * scale, den, m % 2 == 0⟩

def Interval.has (i : Interval) (n : Nat) (k : Int) : Bool :=
  let (a, b) :=
    if 0 ≤ k then (n * tenPow k.toNat * i.den, 1) else (n * i.den, tenPow (-k).toNat)
  if i.closed then i.lo * b ≤ a && a ≤ i.hi * b else i.lo * b < a && a < i.hi * b

def Interval.magnitude (i : Interval) : Int :=
  (digitCount (i.mid * tenPow 340 / i.den) : Int) - 341

def Interval.onGrid (i : Interval) (k : Int) : Nat × Nat × Nat :=
  let (a, b) :=
    if 0 ≤ k then (i.mid, i.den * tenPow k.toNat) else (i.mid * tenPow (-k).toNat, i.den)
  (a / b, a % b, b)

-- Only the two neighbours of the middle have to be tried.
def Interval.nearest? (i : Interval) (k : Int) : Option Nat :=
  let (q, r, b) := i.onGrid k
  match i.has q k, i.has (q + 1) k with
  | true, true =>
      some (if 2 * r < b then q else if b < 2 * r then q + 1 else q + q % 2)
  | true, false => some q
  | false, true => some (q + 1)
  | false, false => none

def Interval.search (i : Interval) (top : Int) : Nat → Nat → Decimal
  | n, 0 => ⟨(i.onGrid (top - n + 1)).1, top - n + 1⟩
  | n, fuel + 1 =>
      match i.nearest? (top - n + 1) with
      | some digits => ⟨digits, top - n + 1⟩
      | none => i.search top (n + 1) fuel

def Double.shortest (x : Double) : Decimal :=
  if x.mantissa = 0 then ⟨0, 0⟩
  else (x.interval.search x.interval.magnitude 1 17).strip 17

end StructuredLog.Number
