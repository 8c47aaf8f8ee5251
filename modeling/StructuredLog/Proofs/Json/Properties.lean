import Mathlib.Data.List.Nodup
import StructuredLog.Json.Basic

set_option autoImplicit false

namespace StructuredLog.Properties

def Ordered (m : Properties) : Prop := (m.map Prod.fst).Pairwise (· < ·)

instance (m : Properties) : Decidable m.Ordered :=
  inferInstanceAs (Decidable ((m.map Prod.fst).Pairwise (· < ·)))

structure Overlaid (under top m : Properties) : Prop where
  ordered : m.Ordered
  values : ∀ key, m.find? key = (top.find? key).or (under.find? key)

theorem find_insert (key other : String) (value : Json) (m : Properties) :
    (m.insert key value).find? other = if key = other then some value else m.find? other := by
  induction m with
  | nil => rfl
  | cons field rest ih =>
      obtain ⟨k, v⟩ := field
      unfold insert
      by_cases same : key = k
      · subst k
        by_cases here : key = other
        · simp [find?, here]
        · simp [find?, here]
      · rw [if_neg same]
        by_cases less : key < k
        · rw [if_pos less]
          rfl
        · rw [if_neg less]
          by_cases here : k = other
          · subst other
            simp [find?, same]
          · simpa [find?, here] using ih

theorem key_of_insert (key : String) (value : Json) (m : Properties) (k : String)
    (member : k ∈ (m.insert key value).map Prod.fst) : k = key ∨ k ∈ m.map Prod.fst := by
  induction m with
  | nil => exact .inl (List.mem_singleton.mp member)
  | cons field rest ih =>
      obtain ⟨first, v⟩ := field
      unfold insert at member
      by_cases same : key = first
      · rw [if_pos same] at member
        rcases List.mem_cons.mp member with new | old
        · exact .inl new
        · exact .inr (List.mem_cons_of_mem _ old)
      · rw [if_neg same] at member
        by_cases less : key < first
        · rw [if_pos less] at member
          exact List.mem_cons.mp member
        · rw [if_neg less] at member
          rcases List.mem_cons.mp member with here | later
          · exact .inr (List.mem_cons.mpr (.inl here))
          · rcases ih later with new | old
            · exact .inl new
            · exact .inr (List.mem_cons_of_mem _ old)

theorem insert_ordered (key : String) (value : Json) (m : Properties) (ordered : m.Ordered) :
    (m.insert key value).Ordered := by
  induction m with
  | nil => exact List.pairwise_singleton _ _
  | cons field rest ih =>
      obtain ⟨first, v⟩ := field
      obtain ⟨least, ascending⟩ := List.pairwise_cons.mp ordered
      unfold insert
      by_cases same : key = first
      · rw [if_pos same]
        subst first
        exact ordered
      · rw [if_neg same]
        by_cases less : key < first
        · rw [if_pos less]
          refine List.pairwise_cons.mpr ⟨?_, ordered⟩
          intro k member
          rcases List.mem_cons.mp member with here | later
          · exact lt_of_lt_of_eq less here.symm
          · exact String.lt_trans less (least k later)
        · rw [if_neg less]
          refine List.pairwise_cons.mpr ⟨?_, ih ascending⟩
          intro k member
          rcases key_of_insert key value rest k member with new | old
          · subst new
            exact Std.lt_of_le_of_ne (String.not_lt.mp less) (Ne.symm same)
          · exact least k old

theorem overlay_ordered (under top : Properties) (ordered : under.Ordered) :
    (under.overlay top).Ordered := by
  induction top generalizing under with
  | nil => exact ordered
  | cons field rest ih => exact ih _ (insert_ordered field.1 field.2 under ordered)

theorem find_absent (key : String) (m : Properties) (absent : key ∉ m.map Prod.fst) :
    m.find? key = none := by
  induction m with
  | nil => rfl
  | cons field rest ih =>
      obtain ⟨first, v⟩ := field
      obtain ⟨other, later⟩ := not_or.mp (mt List.mem_cons.mpr absent)
      exact (if_neg (Ne.symm other)).trans (ih later)

-- The last value of a name wins, so each name of the upper map must stand once.
theorem find_overlay (under top : Properties) (ordered : top.Ordered) (key : String) :
    (under.overlay top).find? key = (top.find? key).or (under.find? key) := by
  induction top generalizing under with
  | nil => rfl
  | cons field rest ih =>
      obtain ⟨first, v⟩ := field
      obtain ⟨least, ascending⟩ := List.pairwise_cons.mp ordered
      refine (ih (under.insert first v) ascending).trans ?_
      rw [find_insert]
      by_cases here : first = key
      · subst key
        have once : find? first rest = none :=
          find_absent first rest fun member => String.lt_irrefl first (least first member)
        simp [find?, once]
      · simp [find?, here]

theorem find_overlay_last (under : Properties) (top : List (String × Json)) (key : String) :
    (under.overlay top).find? key =
      ((top.reverse.find? fun f => f.1 = key).map Prod.snd).or (under.find? key) := by
  induction top generalizing under with
  | nil => rfl
  | cons field rest ih =>
      obtain ⟨first, v⟩ := field
      refine (ih (under.insert first v)).trans ?_
      rw [find_insert, List.reverse_cons, List.find?_append]
      cases rest.reverse.find? fun f => f.1 = key with
      | some last => rfl
      | none => by_cases here : first = key <;> simp [here]

theorem find_of_fields (fields : List (String × Json)) (key : String) :
    (ofFields fields).find? key = (fields.reverse.find? fun f => f.1 = key).map Prod.snd :=
  (find_overlay_last [] fields key).trans Option.or_none

theorem overlay_overlaid (under top : Properties) (lower : under.Ordered) (upper : top.Ordered) :
    Overlaid under top (under.overlay top) :=
  ⟨overlay_ordered under top lower, find_overlay under top upper⟩

theorem find_member (m : Properties) (name : String) (value : Json)
    (member : (name, value) ∈ m) (once : (m.map Prod.fst).Nodup) :
    find? name m = some value := by
  induction m with
  | nil => cases member
  | cons field rest ih =>
      obtain ⟨fresh, once⟩ := List.nodup_cons.mp once
      rcases List.mem_cons.mp member with here | later
      · subst field
        exact if_pos rfl
      · have other : field.1 ≠ name := fun same =>
          fresh (same ▸ List.mem_map.mpr ⟨(name, value), later, rfl⟩)
        exact (if_neg other).trans (ih later once)

@[simp] theorem find_append (name : String) (a b : Properties) :
    find? name (a ++ b) = (find? name a).or (find? name b) := by
  induction a with
  | nil => rfl
  | cons field rest ih =>
      obtain ⟨first, value⟩ := field
      by_cases this : first = name
      · simp [find?, this]
      · simpa [find?, this] using ih

theorem insert_perm (key : String) (value : Json) (m : Properties)
    (fresh : key ∉ m.map Prod.fst) : (m.insert key value).Perm ((key, value) :: m) := by
  induction m with
  | nil => exact .refl _
  | cons field rest ih =>
      obtain ⟨first, v⟩ := field
      obtain ⟨other, later⟩ := not_or.mp (mt List.mem_cons.mpr fresh)
      rw [insert, if_neg other]
      by_cases less : key < first
      · rw [if_pos less]
      · rw [if_neg less]
        exact ((ih later).cons (first, v)).trans (.swap _ _ _)

theorem overlay_perm (under top : Properties) (once : ((top ++ under).map Prod.fst).Nodup) :
    (under.overlay top).Perm (top ++ under) := by
  induction top generalizing under with
  | nil => exact .refl _
  | cons field rest ih =>
      obtain ⟨key, value⟩ := field
      have parted : key ∉ (rest ++ under).map Prod.fst ∧ ((rest ++ under).map Prod.fst).Nodup :=
        List.nodup_cons.mp once
      have fresh : key ∉ under.map Prod.fst :=
        fun member => parted.1 (by rw [List.map_append]; exact List.mem_append_right _ member)
      have inserted := insert_perm key value under fresh
      have moved : (rest ++ under.insert key value).Perm ((key, value) :: (rest ++ under)) :=
        (inserted.append_left rest).trans List.perm_middle
      have once' : ((rest ++ under.insert key value).map Prod.fst).Nodup :=
        (moved.map Prod.fst).nodup_iff.mpr once
      exact (ih (under.insert key value) once').trans moved

theorem ordered_nodup (m : Properties) (ordered : m.Ordered) : (m.map Prod.fst).Nodup :=
  List.Pairwise.imp (fun less => String.ne_of_lt less) ordered

theorem ordered_unique (a b : Properties) (left : a.Ordered) (right : b.Ordered)
    (same : a.Perm b) : a = b := by
  have ascending (m : Properties) (ordered : m.Ordered) : m.Pairwise fun x y => x.1 < y.1 :=
    List.pairwise_map.mp ordered
  refine same.eq_of_pairwise ?_ (ascending a left) (ascending b right)
  intro x y _ _ less more
  exact absurd more (String.lt_asymm less)

theorem of_fields_ordered (fields m : Properties) (ordered : m.Ordered) (same : fields.Perm m) :
    ofFields fields = m := by
  have once : (fields.map Prod.fst).Nodup :=
    (same.map Prod.fst).nodup_iff.mpr (ordered_nodup m ordered)
  have whole := overlay_perm [] fields (by rwa [List.append_nil])
  rw [List.append_nil] at whole
  exact ordered_unique _ m (overlay_ordered [] fields .nil) ordered (whole.trans same)

end StructuredLog.Properties
