import StructuredLog.Number.Shortest

set_option autoImplicit false

namespace StructuredLog

inductive Number where
  | int (value : Int)
  | double (value : Number.Double)
deriving DecidableEq, Repr

namespace Number

-- A number is written positionally when its decimal exponent lies in this range.
def leastPositional : Int := -5
def greatestPositional : Int := 15

def digitChars (n : Nat) : List Char := Nat.toDigits 10 n

def signedExponent (e : Int) : List Char :=
  'e' :: (if e < 0 then '-' else '+') :: digitChars e.natAbs

def Decimal.text (d : Decimal) : List Char :=
  let digits := digitChars d.digits
  let top : Int := d.exponent + digits.length - 1
  if d.digits = 0 then ['0', '.', '0']
  else if leastPositional ≤ top ∧ top ≤ greatestPositional then
    if 0 ≤ d.exponent then digits ++ List.replicate d.exponent.toNat '0' ++ ['.', '0']
    else
      let places := (-d.exponent).toNat
      if places < digits.length then
        digits.take (digits.length - places) ++ '.' :: digits.drop (digits.length - places)
      else '0' :: '.' :: (List.replicate (places - digits.length) '0' ++ digits)
  else
    match digits with
    | [] => []
    | [d] => d :: signedExponent top
    | d :: rest => d :: '.' :: (rest ++ signedExponent top)

def Double.text (x : Double) : List Char :=
  (if x.negative then ['-'] else []) ++ x.shortest.text

def intText (i : Int) : List Char :=
  (if i < 0 then ['-'] else []) ++ digitChars i.natAbs

def text : Number → List Char
  | .int i => intText i
  | .double x => x.text

end Number

end StructuredLog
