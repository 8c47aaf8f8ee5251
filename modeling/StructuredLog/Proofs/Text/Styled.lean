import Mathlib.Data.List.Forall2
import StructuredLog.Text.Style

set_option autoImplicit false

namespace StructuredLog.Text

def isParameter (c : Char) : Bool := c.isDigit || c == ';'

-- What comes behind a style sequence: ESC, `[`, its parameters and `m`.
def behindSequence? : List Char → Option (List Char)
  | '\x1b' :: '[' :: rest =>
      match rest.dropWhile isParameter with
      | 'm' :: left => some left
      | _ => none
  | _ => none

theorem behind_sequence_shorter (cs left : List Char) (found : behindSequence? cs = some left) :
    left.length < cs.length := by
  unfold behindSequence? at found
  split at found
  · rename_i rest
    have kept := (List.dropWhile_suffix (p := isParameter) (l := rest)).length_le
    split at found
    · rename_i after dropped
      cases found
      rw [dropped] at kept
      simp only [List.length_cons] at kept ⊢
      omega
    · cases found
  · cases found

def withoutSequences : List Char → List Char
  | [] => []
  | c :: cs =>
      match found : behindSequence? (c :: cs) with
      | some left =>
          have : left.length < (c :: cs).length := behind_sequence_shorter _ _ found
          withoutSequences left
      | none => c :: withoutSequences cs
termination_by cs => cs.length
decreasing_by
  · exact this
  · exact Nat.lt_succ_self _

def unstyled (s : String) : String := String.ofList (withoutSequences s.toList)

def Unescaped (text : String) : Prop := '\x1b' ∉ text.toList

def Unstyles (styled plain : String) : Prop :=
  ∀ rest, withoutSequences (styled.toList ++ rest) = plain.toList ++ withoutSequences rest

def isNumeric (text : String) : Bool := text.toList.all isParameter

theorem without_char (c : Char) (rest : List Char) (other : c ≠ '\x1b') :
    withoutSequences (c :: rest) = c :: withoutSequences rest := by
  have none : behindSequence? (c :: rest) = none := by
    unfold behindSequence?
    split
    · rename_i same
      exact absurd (List.cons.inj same).1 other
    · rfl
  rw [withoutSequences]
  split
  · rename_i found
    rw [none] at found
    cases found
  · rfl

theorem without_sequence (parameters rest : List Char)
    (numeric : ∀ c ∈ parameters, isParameter c = true) :
    withoutSequences ('\x1b' :: '[' :: (parameters ++ 'm' :: rest)) = withoutSequences rest := by
  have dropped : (parameters ++ 'm' :: rest).dropWhile isParameter = 'm' :: rest := by
    rw [List.dropWhile_append_of_pos numeric]
    rfl
  have behind : behindSequence? ('\x1b' :: '[' :: (parameters ++ 'm' :: rest)) = some rest := by
    rw [behindSequence?, dropped]
    rfl
  rw [withoutSequences]
  split
  · rename_i found
    rw [behind] at found
    cases found
    rfl
  · rename_i found
    rw [behind] at found
    cases found

theorem unstyles_unescaped (text : String) (clear : Unescaped text) : Unstyles text text := by
  intro rest
  unfold Unescaped at clear
  generalize text.toList = cs at clear ⊢
  induction cs with
  | nil => rfl
  | cons c cs ih =>
      obtain ⟨other, clear⟩ := not_or.mp (mt List.mem_cons.mpr clear)
      rw [List.cons_append, without_char c _ (Ne.symm other), ih clear]
      rfl

theorem unstyles_append (a b plain other : String) (first : Unstyles a plain)
    (second : Unstyles b other) : Unstyles (a ++ b) (plain ++ other) := by
  intro rest
  rw [String.toList_append, String.toList_append, List.append_assoc, first, second,
    List.append_assoc]

theorem unstyles_sequence (parameter : String) (numeric : isNumeric parameter = true) :
    Unstyles (Style.sequence parameter) "" := by
  intro rest
  have letters : (Style.sequence parameter).toList ++ rest =
      '\x1b' :: '[' :: (parameter.toList ++ 'm' :: rest) := by
    simp [Style.sequence]
  rw [letters, without_sequence _ rest (List.all_eq_true.mp numeric)]
  rfl

theorem unstyles_join {α : Type} (styled plain : α → String) (parts : List α)
    (each : ∀ part ∈ parts, Unstyles (styled part) (plain part)) :
    Unstyles (String.join (parts.map styled)) (String.join (parts.map plain)) := by
  induction parts with
  | nil => exact fun _ => rfl
  | cons part parts ih =>
      obtain ⟨here, later⟩ := List.forall_mem_cons.mp each
      rw [List.map_cons, List.map_cons, String.join_cons, String.join_cons]
      exact unstyles_append _ _ _ _ here (ih later)

theorem unstyles_intercalate (separator : String) (clear : Unescaped separator)
    (styled plain : List String) (each : List.Forall₂ Unstyles styled plain) :
    Unstyles (separator.intercalate styled) (separator.intercalate plain) := by
  induction each with
  | nil => exact fun _ => rfl
  | @cons a b styled plain here later ih =>
      cases later with
      | nil => simpa using here
      | cons next more =>
          rw [String.intercalate_cons_cons, String.intercalate_cons_cons]
          exact unstyles_append _ _ _ _
            (unstyles_append _ _ _ _ here (unstyles_unescaped separator clear)) ih

theorem unstyles_paint (style : Style) (numeric : style.all isNumeric = true) (text : String)
    (clear : Unescaped text) : Unstyles (Style.paint true style text) text := by
  have nothing : String.join (style.map fun _ => "") = "" := by
    rw [← String.toList_inj]
    simp
  have opening : Unstyles (String.join (style.map Style.sequence)) "" := by
    rw [← nothing]
    exact unstyles_join _ _ style fun p member =>
      unstyles_sequence p (List.all_eq_true.mp numeric p member)
  have closing : Unstyles (Style.sequence "0") "" := unstyles_sequence "0" rfl
  have whole := unstyles_append _ _ _ _
    (unstyles_append _ _ _ _ opening (unstyles_unescaped text clear)) closing
  rwa [String.empty_append, String.append_empty] at whole

theorem unstyled_of_unstyles (styled plain : String) (unstyles : Unstyles styled plain) :
    unstyled styled = plain := by
  have whole := unstyles []
  rw [List.append_nil, withoutSequences, List.append_nil] at whole
  rw [unstyled, whole, String.ofList_toList]

end StructuredLog.Text
