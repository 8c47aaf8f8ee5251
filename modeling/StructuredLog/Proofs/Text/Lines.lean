import Mathlib.Data.List.Induction
import StructuredLog.Proofs.Text.Blank

set_option autoImplicit false

namespace StructuredLog.Text

def firstLine (cs : List Char) : List Char := cs.takeWhile (· != '\n')

def lastLine (cs : List Char) : List Char := (cs.reverse.takeWhile (· != '\n')).reverse

theorem first_line_unfed (cs : List Char) (unfed : '\n' ∉ cs) (rest : List Char) :
    firstLine (cs ++ rest) = cs ++ firstLine rest := by
  refine List.takeWhile_append_of_pos fun c member => bne_iff_ne.mpr ?_
  rintro rfl
  exact unfed member

theorem first_line_fed (cs : List Char) (fed : '\n' ∈ cs) (rest : List Char) :
    firstLine (cs ++ rest) = firstLine cs := by
  have short : (firstLine cs).length ≠ cs.length := by
    intro whole
    have same : firstLine cs = cs := (List.takeWhile_prefix _).eq_of_length whole
    have inside : '\n' ∈ firstLine cs := by rwa [same]
    exact absurd (List.mem_takeWhile_imp inside) (by decide)
  unfold firstLine at short ⊢
  rw [List.takeWhile_append, if_neg short]

theorem first_line_reaches (cs : List Char) (i : Nat) :
    i < (firstLine cs).length ↔ '\n' ∉ cs.take i ∧ ∃ c, cs[i]? = some c ∧ c ≠ '\n' := by
  constructor
  · intro within
    obtain ⟨rest, whole⟩ := List.takeWhile_prefix (p := (· != '\n')) (l := cs)
    change firstLine cs ++ rest = cs at whole
    have early (c : Char) (member : c ∈ firstLine cs) : c ≠ '\n' := by
      rintro rfl
      exact absurd (List.mem_takeWhile_imp member) (by decide)
    rw [← whole, List.take_append_of_le_length (Nat.le_of_lt within),
      List.getElem?_append_left within, List.getElem?_eq_getElem within]
    exact ⟨fun fed => early '\n' (List.mem_of_mem_take fed) rfl,
      _, rfl, early _ (List.getElem_mem within)⟩
  · rintro ⟨unfed, c, there, other⟩
    obtain ⟨inside, rfl⟩ := List.getElem?_eq_some_iff.mp there
    have reached : '\n' ∉ cs.take (i + 1) := by
      rw [List.take_succ_eq_append_getElem inside, List.mem_append, not_or, List.mem_singleton]
      exact ⟨unfed, Ne.symm other⟩
    have whole := first_line_unfed (cs.take (i + 1)) reached (cs.drop (i + 1))
    rw [List.take_append_drop] at whole
    rw [whole, List.length_append, List.length_take]
    omega

theorem last_line_unfed (cs : List Char) : '\n' ∉ lastLine cs := by
  intro member
  exact absurd (List.mem_takeWhile_imp (List.mem_reverse.mp member)) (by decide)

theorem last_line_concat (cs : List Char) (c : Char) :
    lastLine (cs ++ [c]) = if c = '\n' then [] else lastLine cs ++ [c] := by
  unfold lastLine
  by_cases feed : c = '\n'
  · simp [feed]
  · simp [feed]

theorem last_line_append (cs rest : List Char) (unfed : '\n' ∉ rest) :
    lastLine (cs ++ rest) = lastLine cs ++ rest := by
  induction rest using List.reverseRecOn with
  | nil => simp
  | append_singleton rest c ih =>
      simp only [List.mem_append, List.mem_singleton, not_or] at unfed
      rw [← List.append_assoc, last_line_concat, if_neg (Ne.symm unfed.2), ih unfed.1,
        List.append_assoc]

theorem last_line_cut (cs : List Char) :
    cs = lastLine cs ∨ ∃ lines, cs = lines ++ '\n' :: lastLine cs := by
  induction cs using List.reverseRecOn with
  | nil => exact .inl rfl
  | append_singleton cs c ih =>
      rw [last_line_concat]
      by_cases feed : c = '\n'
      · rw [if_pos feed, feed]
        exact .inr ⟨cs, rfl⟩
      · rw [if_neg feed]
        rcases ih with whole | ⟨lines, cut⟩
        · exact .inl (congrArg (· ++ [c]) whole)
        · refine .inr ⟨lines, ?_⟩
          calc cs ++ [c] = (lines ++ '\n' :: lastLine cs) ++ [c] := congrArg (· ++ [c]) cut
            _ = lines ++ '\n' :: (lastLine cs ++ [c]) := by simp

theorem split_head (cs : List Char) : (cs.splitOn '\n').head? = some (firstLine cs) := by
  induction cs with
  | nil => rfl
  | cons c cs ih =>
      rw [List.splitOn_cons_eq_if_modifyHead]
      by_cases feed : c = '\n'
      · simp [feed, firstLine]
      · obtain ⟨tail, split⟩ := List.head?_eq_some_iff.mp ih
        simp [feed, firstLine, split]

theorem split_length (cs : List Char) : (cs.splitOn '\n').length = cs.count '\n' + 1 := by
  induction cs with
  | nil => rfl
  | cons c cs ih =>
      rw [List.splitOn_cons_eq_if_modifyHead]
      by_cases feed : c = '\n'
      · simp [feed, ih]
      · simp [feed, ih]

theorem split_line (before rest : List Char) :
    ((before ++ rest).splitOn '\n')[before.count '\n']? =
      some (lastLine before ++ firstLine rest) := by
  have unfed := last_line_unfed before
  have head : ((lastLine before ++ rest).splitOn '\n')[0]? =
      some (lastLine before ++ firstLine rest) := by
    rw [← List.head?_eq_getElem?, split_head, first_line_unfed _ unfed]
  rcases last_line_cut before with whole | ⟨lines, cut⟩
  · rw [← whole] at unfed head ⊢
    rwa [List.count_eq_zero_of_not_mem unfed]
  · have feeds : before.count '\n' = lines.count '\n' + 1 := by
      rw [cut, List.count_append, List.count_cons_self, List.count_eq_zero_of_not_mem unfed]
    have split : (before ++ rest).splitOn '\n' =
        lines.splitOn '\n' ++ (lastLine before ++ rest).splitOn '\n' := by
      rw [congrArg (· ++ rest) cut, List.append_assoc, List.cons_append]
      exact List.splitOnP_append_cons lines _ (by rfl)
    rw [feeds, split, ← split_length, List.getElem?_append_right (Nat.le_refl _), Nat.sub_self]
    exact head

end StructuredLog.Text
