import StructuredLog.Config.Toml.Table
import StructuredLog.Text.Digits

set_option autoImplicit false

namespace StructuredLog.Config.Toml

open Text (digitValue naturalOf?)

def digitRun (isDigit : Char → Bool) : List Char → Option (List Char)
  | [] => none
  | [d] => if isDigit d then some [d] else none
  | d :: '_' :: rest => if isDigit d then (digitRun isDigit rest).map (d :: ·) else none
  | d :: rest => if isDigit d then (digitRun isDigit rest).map (d :: ·) else none

def radix (base : Nat) (cs : List Char) : Option Value :=
  (digitRun Char.isAlphanum cs).bind fun ds => (naturalOf? base ds).map fun n => .integer n

def decimal (cs : List Char) : Option Nat :=
  match digitRun Char.isDigit cs with
  | some ('0' :: _ :: _) => none
  | some ds => naturalOf? 10 ds
  | none => none

def isExponent (cs : List Char) : Bool :=
  match cs with
  | '+' :: rest => (digitRun Char.isDigit rest).isSome
  | '-' :: rest => (digitRun Char.isDigit rest).isSome
  | _ => (digitRun Char.isDigit cs).isSome

def isExponentMark (c : Char) : Bool := c == 'e' || c == 'E'

def isFloat (cs : List Char) : Bool :=
  let whole := cs.takeWhile fun c => c != '.' && !isExponentMark c
  (decimal whole).isSome &&
    (match cs.dropWhile fun c => c != '.' && !isExponentMark c with
     | '.' :: rest =>
         (digitRun Char.isDigit (rest.takeWhile fun c => !isExponentMark c)).isSome &&
           (match rest.dropWhile fun c => !isExponentMark c with
            | [] => true
            | _ :: exponent => isExponent exponent)
     | _ :: exponent => isExponent exponent
     | [] => false)

def unsigned (cs : List Char) : Option (Nat ⊕ Unit) :=
  match decimal cs with
  | some n => some (.inl n)
  | none =>
      if isFloat cs || cs == ['i', 'n', 'f'] || cs == ['n', 'a', 'n'] then some (.inr ()) else none

def twoDigits (cs : List Char) : Option (Nat × List Char) :=
  match cs with
  | a :: b :: rest =>
      if a.isDigit && b.isDigit then some (10 * digitValue a + digitValue b, rest) else none
  | _ => none

def daysOf (year month : Nat) : Nat :=
  if month = 2 then
    if year % 4 = 0 ∧ (year % 100 ≠ 0 ∨ year % 400 = 0) then 29 else 28
  else if month = 4 ∨ month = 6 ∨ month = 9 ∨ month = 11 then 30 else 31

def date (cs : List Char) : Option (List Char) := do
  let (century, rest) ← twoDigits cs
  let (year, rest) ← twoDigits rest
  let '-' :: rest := rest | none
  let (month, rest) ← twoDigits rest
  let '-' :: rest := rest | none
  let (day, rest) ← twoDigits rest
  if 1 ≤ month ∧ month ≤ 12 ∧ 1 ≤ day ∧ day ≤ daysOf (100 * century + year) month then some rest
  else none

def timeOfDay (cs : List Char) : Option (List Char) := do
  let (hour, rest) ← twoDigits cs
  let ':' :: rest := rest | none
  let (minute, rest) ← twoDigits rest
  if hour < 24 ∧ minute < 60 then
    match rest with
    | ':' :: rest =>
        let (second, rest) ← twoDigits rest
        if second ≤ 60 then
          match rest with
          | '.' :: rest =>
              if (rest.takeWhile Char.isDigit).isEmpty then none
              else some (rest.dropWhile Char.isDigit)
          | _ => some rest
        else none
    | _ => some rest
  else none

def isOffset (cs : List Char) : Bool :=
  let hours := fun rest => match twoDigits rest with
    | some (hour, ':' :: rest) =>
        (match twoDigits rest with
         | some (minute, []) => decide (hour < 24 ∧ minute < 60)
         | _ => false)
    | _ => false
  match cs with
  | [] => true
  | ['Z'] => true
  | ['z'] => true
  | '+' :: rest => hours rest
  | '-' :: rest => hours rest
  | _ => false

def isMoment (cs : List Char) : Bool :=
  match date cs with
  | some [] => true
  | some (c :: rest) =>
      (c == 'T' || c == 't' || c == ' ')
        && (match timeOfDay rest with | some rest => isOffset rest | none => false)
  | none => timeOfDay cs == some []

def bareValue (cs : List Char) : Option Value :=
  if cs == "true".toList then some (.boolean true)
  else if cs == "false".toList then some (.boolean false)
  else if isMoment cs then some .moment
  else
    match cs with
    | '0' :: 'x' :: rest => radix 16 rest
    | '0' :: 'o' :: rest => radix 8 rest
    | '0' :: 'b' :: rest => radix 2 rest
    | '-' :: rest =>
        (unsigned rest).map fun n => match n with | .inl n => .integer (-n) | .inr _ => .float
    | '+' :: rest =>
        (unsigned rest).map fun n => match n with | .inl n => .integer n | .inr _ => .float
    | _ => (unsigned cs).map fun n => match n with | .inl n => .integer n | .inr _ => .float

def endsBare (c : Char) : Bool :=
  c == ' ' || c == '\t' || c == '\n' || c == '\r' || c == ',' || c == ']' || c == '}' || c == '#'
    || c == '=' || c == '['  || c == '{' || c == '"' || c == '\''

def bareChars (cs : List Char) : List Char × List Char :=
  let word := cs.takeWhile fun c => !endsBare c
  let rest := cs.dropWhile fun c => !endsBare c
  match rest with
  | ' ' :: more =>
      let time := more.takeWhile fun c => !endsBare c
      if date word == some [] && (time.head?.map Char.isDigit).getD false then
        (word ++ ' ' :: time, more.dropWhile fun c => !endsBare c)
      else (word, rest)
  | _ => (word, rest)

end StructuredLog.Config.Toml
