set_option autoImplicit false

namespace StructuredLog.Time

def padded (width n : Nat) : List Char :=
  let digits := Nat.toDigits 10 n
  List.replicate (width - digits.length) '0' ++ digits

-- The last millisecond of the last year that a calendar date can have.
def lastMillis : Nat := 8210266876799999

-- By how many seconds local time is ahead at a time in milliseconds.
abbrev Zone := Nat → Int

def utc : Zone := fun _ => 0

def inZone (zone : Zone) (millis : Nat) : String :=
  if lastMillis < millis then ""
  else
    let ms := ((millis + 1000 * zone millis : Int) % 86400000).toNat
    String.ofList (padded 2 (ms / 3600000) ++ ':' :: padded 2 (ms / 60000 % 60)
      ++ ':' :: padded 2 (ms / 1000 % 60) ++ '.' :: padded 3 (ms % 1000))

def ofDay (millis : Nat) : String := inZone utc millis

-- Years are counted from March, so a leap day ends one.
def civil (days : Nat) : Nat × Nat × Nat :=
  let z := days + 719468
  let era := z / 146097
  let ofEra := z % 146097
  let year := (ofEra - ofEra / 1460 + ofEra / 36524 - ofEra / 146096) / 365
  let ofYear := ofEra - (365 * year + year / 4 - year / 100)
  let march := (5 * ofYear + 2) / 153
  let day := ofYear - (153 * march + 2) / 5 + 1
  let month := if march < 10 then march + 3 else march - 9
  (era * 400 + year + if month ≤ 2 then 1 else 0, month, day)

def stamp (micros : Nat) : String :=
  let (year, month, day) := civil (micros / 86400000000)
  let s := micros / 1000000 % 86400
  String.ofList (padded 4 year ++ '-' :: padded 2 month ++ '-' :: padded 2 day
    ++ 'T' :: padded 2 (s / 3600) ++ ':' :: padded 2 (s / 60 % 60) ++ ':' :: padded 2 (s % 60)
    ++ '.' :: padded 6 (micros % 1000000) ++ ['Z'])

end StructuredLog.Time
