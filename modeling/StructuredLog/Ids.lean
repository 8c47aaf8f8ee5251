import StructuredLog.Number.Power

set_option autoImplicit false

namespace StructuredLog

-- Drawn identifiers come from a sequence that nothing here knows of.
inductive IdSource where
  | counting (label : String) (issued : Nat)
  | drawn (ids : Nat → String) (issued : Nat)

namespace IdSource

def counter (label : String) : IdSource := .counting label 0

def numbered (label : String) (n : Nat) : String :=
  if label.isEmpty then toString n else label ++ "-" ++ toString n

def hexDigits (n : Nat) : List Char :=
  (List.range 32).map fun i => Nat.digitChar (n / Number.twoPow (4 * (31 - i)) % 16)

def uuid (n : Nat) : String :=
  let digits := hexDigits n
  let variant := Nat.digitChar (8 + n / Number.twoPow 60 % 4)
  String.ofList (digits.take 8 ++ '-' :: (digits.drop 8).take 4
    ++ '-' :: '4' :: (digits.drop 13).take 3
    ++ '-' :: variant :: (digits.drop 17).take 3 ++ '-' :: digits.drop 20)

def step (state : Nat) : Nat :=
  (state * 6364136223846793005 + 1442695040888963407) % Number.twoPow 128

def uuids (seed n : Nat) : String := uuid (Nat.repeat step (n + 1) seed)

def random (seed : Nat) : IdSource := .drawn (uuids seed) 0

def draw : IdSource → String × IdSource
  | .counting label issued => (numbered label (issued + 1), .counting label (issued + 1))
  | .drawn ids issued => (ids issued, .drawn ids (issued + 1))

def generate (source : IdSource) : Option String → String × IdSource
  | some id => (id, source)
  | none => source.draw

end IdSource

end StructuredLog
