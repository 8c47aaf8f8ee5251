import StructuredLog.Transport.Basic

set_option autoImplicit false

namespace StructuredLog

def Transport.cleared (t : Transport) : Transport :=
  match t.sink with
  | .memory capacity _ poisoned => { t with sink := .memory capacity [] poisoned }
  | _ => t

namespace Memory

def outOfRange : String := "assertion failed: mid <= self.len()"

def poisoned : String := "record buffer is poisoned"

def turned? (places : Nat) (kept : List Snapshot) : Option (List Snapshot) :=
  if places ≤ kept.length then some (kept.drop places ++ kept.take places) else none

-- The oldest records beyond the capacity are turned behind the others and cut off.
def push? (capacity : Option Nat) (kept : List Snapshot) (s : Snapshot) : Option (List Snapshot) :=
  let all := kept ++ [s]
  match capacity with
  | none => some all
  | some n => (turned? (all.length - n) all).map (List.take n)

def push (capacity : Option Nat) (kept : List Snapshot) (s : Snapshot) : List Snapshot :=
  let all := kept ++ [s]
  match capacity with
  | none => all
  | some n => all.drop (all.length - n)

theorem push_in_range (capacity : Option Nat) (kept : List Snapshot) (s : Snapshot) :
    push? capacity kept s = some (push capacity kept s) := by
  unfold push? push turned?
  cases capacity with
  | none => rfl
  | some n =>
      generalize kept ++ [s] = all
      dsimp only
      rw [if_pos (Nat.sub_le ..), Option.map_some, Option.some.injEq]
      by_cases room : all.length ≤ n
      · rw [Nat.sub_eq_zero_of_le room, List.drop_zero, List.take_zero, List.append_nil,
          List.take_of_length_le room]
      · have full : (all.drop (all.length - n)).length = n := by
          rw [List.length_drop]
          omega
        exact List.take_left' full

def texts (kept : List Snapshot) : List String := kept.map Snapshot.text

def atLevel (level : Level) (kept : List Snapshot) : List Snapshot :=
  kept.filter fun s => s.level == level

def last? (kept : List Snapshot) : Option Snapshot := kept.getLast?

end Memory

end StructuredLog
