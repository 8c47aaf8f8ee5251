import StructuredLog.Number.Text
import StructuredLog.Text.Digits

set_option autoImplicit false

namespace StructuredLog.Number

open Text (naturalOf?)

def sign (cs : List Char) : Bool × List Char :=
  match cs with
  | '-' :: rest => (true, rest)
  | '+' :: rest => (false, rest)
  | _ => (false, cs)

def integerOf? (text : String) : Option Int :=
  let (negative, digits) := sign text.toList
  (naturalOf? 10 digits).map fun n => if negative then -(n : Int) else n

structure Scaled where
  digits : Nat
  exponent : Int
deriving DecidableEq, Repr

def scaled? (cs : List Char) : Option Scaled :=
  let isMark := fun c => c == 'e' || c == 'E'
  let mantissa := cs.takeWhile fun c => !isMark c
  let whole := mantissa.takeWhile (· != '.')
  let fraction := (mantissa.dropWhile (· != '.')).drop 1
  let exponent := match cs.dropWhile fun c => !isMark c with
    | [] => some 0
    | _ :: rest => integerOf? (String.ofList rest)
  match naturalOf? 10 (whole ++ fraction), exponent with
  | some digits, some e => some ⟨digits, e - fraction.length⟩
  | _, _ => none

-- Far beyond the range of every width the exponent alone decides.
def Scaled.round (w : Width) (negative : Bool) (s : Scaled) : Option Double :=
  let magnitude := s.exponent + digitCount s.digits
  if s.digits = 0 ∨ magnitude < -400 then some (Double.zero negative)
  else if 400 < magnitude then none
  else if 0 ≤ s.exponent then Double.roundTo w negative (s.digits * tenPow s.exponent.toNat) 1
  else Double.roundTo w negative s.digits (tenPow (-s.exponent).toNat)

def Double.widened (x : Double) : Option Double :=
  let (num, den) := x.magnitude
  Double.round x.negative num den

def doubleOf? (w : Width) (text : String) : Option Double :=
  let (negative, rest) := sign text.toList
  (scaled? rest).bind fun s => (s.round w negative).bind Double.widened

def word? (i : Int) : Option Number :=
  if -(twoPow 63 : Int) ≤ i ∧ i < wordBound then some (.int i) else none

end StructuredLog.Number
