set_option autoImplicit false

namespace StructuredLog.Text

def digitValue (c : Char) : Nat := c.toNat - '0'.toNat

def hexValue (c : Char) : Option Nat :=
  if c.isDigit then some (digitValue c)
  else if 'a' ≤ c ∧ c ≤ 'f' then some (c.toNat - 'a'.toNat + 10)
  else if 'A' ≤ c ∧ c ≤ 'F' then some (c.toNat - 'A'.toNat + 10)
  else none

def ofDigits (base : Nat) (ds : List Nat) : Nat := ds.foldl (fun n d => base * n + d) 0

def naturalOf? (base : Nat) (cs : List Char) : Option Nat :=
  let ds := cs.filterMap fun c => (hexValue c).filter (· < base)
  if cs.isEmpty || ds.length != cs.length then none else some (ofDigits base ds)

def scalar? (code : Nat) : Option Char :=
  if code < 0xD800 ∨ (0xE000 ≤ code ∧ code < 0x110000) then some (Char.ofNat code) else none

def coded? (n : Nat) (cs : List Char) : Option Char :=
  if (cs.take n).length = n then (naturalOf? 16 (cs.take n)).bind scalar? else none

end StructuredLog.Text
