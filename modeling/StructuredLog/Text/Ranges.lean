set_option autoImplicit false

namespace StructuredLog.Text

abbrev Ranges := List (Nat × Nat)

def Ranges.has (ranges : Ranges) (c : Char) : Bool :=
  ranges.any fun range => range.1 ≤ c.toNat && c.toNat ≤ range.2

theorem Ranges.has_nil (c : Char) : Ranges.has [] c = false := rfl

theorem Ranges.has_cons (lo hi : Nat) (rest : Ranges) (c : Char) :
    Ranges.has ((lo, hi) :: rest) c = ((lo ≤ c.toNat && c.toNat ≤ hi) || Ranges.has rest c) := rfl

end StructuredLog.Text
