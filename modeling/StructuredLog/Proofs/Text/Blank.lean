import Mathlib.Data.List.DropRight
import StructuredLog.Text.Blank

set_option autoImplicit false

namespace StructuredLog.Text

theorem drop_front_keeps_front (cs : List Char) (front : cs.dropWhile isBlank = cs) :
    (trimEnd cs).dropWhile isBlank = trimEnd cs := by
  rw [List.dropWhile_eq_self_iff] at front ⊢
  intro some
  have shorter : trimEnd cs <+: cs := List.rdropWhile_prefix isBlank cs
  rw [shorter.getElem some]
  exact front (Nat.lt_of_lt_of_le some shorter.length_le)

theorem trim_trim (cs : List Char) : trim (trim cs) = trim cs := by
  have front := drop_front_keeps_front _ (List.dropWhile_idempotent isBlank cs)
  calc trim (trim cs) = trimEnd (trimEnd (cs.dropWhile isBlank)) := congrArg trimEnd front
    _ = trim cs := List.rdropWhile_idempotent isBlank _

theorem trim_nil_iff (cs : List Char) : trim cs = [] ↔ cs.all isBlank = true := by
  have ends : trim cs = [] ↔ ∀ c ∈ cs.dropWhile isBlank, isBlank c = true :=
    List.rdropWhile_eq_nil_iff
  rw [ends, ← List.dropWhile_eq_nil_iff, List.dropWhile_idempotent, List.dropWhile_eq_nil_iff,
    List.all_eq_true]

theorem trim_unspaced (cs : List Char) (unspaced : ∀ c ∈ cs, isBlank c = false) : trim cs = cs := by
  have front : cs.dropWhile isBlank = cs := List.dropWhile_eq_self_iff.mpr fun some =>
    ne_true_of_eq_false (unspaced _ (List.getElem_mem some))
  have back : cs.rdropWhile isBlank = cs := List.rdropWhile_eq_self_iff.mpr fun some =>
    ne_true_of_eq_false (unspaced _ (List.getLast_mem some))
  calc trim cs = trimEnd cs := congrArg trimEnd front
    _ = cs := back

theorem trimmed_trimmed (s : String) : trimmed (trimmed s) = trimmed s := by
  simp only [trimmed, String.toList_ofList, trim_trim]

theorem trimmed_empty (s : String) : (trimmed s).isEmpty = allBlank s := by
  rw [Bool.eq_iff_iff, String.isEmpty_iff, allBlank, ← trim_nil_iff, trimmed,
    String.ofList_eq_empty_iff]

theorem all_blank_trimmed (s : String) : allBlank (trimmed s) = allBlank s := by
  rw [← trimmed_empty, trimmed_trimmed, trimmed_empty]

theorem split_on_cut (sep : Char) (cs : List Char) : splitOn (· == sep) cs = cs.splitOn sep := by
  induction cs with
  | nil => rfl
  | cons c rest ih =>
      rw [List.splitOn_cons_eq_if_modifyHead, splitOn, ih]
      cases split : rest.splitOn sep with
      | nil => exact absurd split (List.splitOn_ne_nil sep rest)
      | cons piece pieces => rfl

end StructuredLog.Text
