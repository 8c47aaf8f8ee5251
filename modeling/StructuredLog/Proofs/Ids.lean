import StructuredLog.Ids

set_option autoImplicit false

namespace StructuredLog.IdSource

def skip (source : IdSource) : Nat → IdSource
  | 0 => source
  | n + 1 => (source.skip n).draw.2

def nth (source : IdSource) (n : Nat) : String := (source.skip n).draw.1

theorem skip_draw (source : IdSource) (n : Nat) : source.draw.2.skip n = source.skip (n + 1) := by
  induction n with
  | zero => rfl
  | succ n ih => exact congrArg (fun s => s.draw.2) ih

theorem nth_draw (source : IdSource) (n : Nat) : source.draw.2.nth n = source.nth (n + 1) :=
  congrArg (fun s => s.draw.1) (skip_draw source n)

theorem decimal_injective (m n : Nat) (same : toString m = toString n) : m = n := by
  have digits := congrArg String.toList same
  rw [Nat.toString_eq_ofList_toDigits, Nat.toString_eq_ofList_toDigits, String.toList_ofList,
    String.toList_ofList] at digits
  have values := congrArg (Nat.ofDigitChars 10 · 0) digits
  simpa only [Nat.ofDigitChars_ten_toDigits] using values

theorem numbered_injective (label : String) (m n : Nat) (same : numbered label m = numbered label n) :
    m = n := by
  unfold numbered at same
  by_cases empty : label.isEmpty = true
  · rw [if_pos empty, if_pos empty] at same
    exact decimal_injective m n same
  · rw [if_neg empty, if_neg empty] at same
    have texts := congrArg String.toList same
    simp only [String.toList_append, List.append_cancel_left_eq] at texts
    exact decimal_injective m n (String.toList_inj.mp texts)

theorem skip_counting (label : String) (issued n : Nat) :
    (IdSource.counting label issued).skip n = .counting label (issued + n) := by
  induction n with
  | zero => rfl
  | succ n ih =>
      rw [skip, ih]
      rfl

theorem nth_counting (label : String) (issued n : Nat) :
    (IdSource.counting label issued).nth n = numbered label (issued + n + 1) := by
  rw [nth, skip_counting]
  rfl

theorem counting_distinct (label : String) (issued m n : Nat)
    (same : (IdSource.counting label issued).nth m = (IdSource.counting label issued).nth n) :
    m = n := by
  rw [nth_counting, nth_counting] at same
  have numbers := numbered_injective label _ _ same
  omega

end StructuredLog.IdSource
