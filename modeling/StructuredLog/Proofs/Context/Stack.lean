import StructuredLog.Context

set_option autoImplicit false

namespace StructuredLog.Scopes

-- The live scopes are the entered ones, and their numbers grow inwards.
structure Stacked (s : Scopes) : Prop where
  keys : s.stored.map Prod.fst = s.active.reverse
  ordered : s.active.Pairwise (· > ·)
  below : ∀ id ∈ s.active, id < s.next

def enclosing (s : Scopes) : List (Nat × Properties) :=
  s.stored.filter fun row => some row.1 != s.active.head?

-- What may happen between two moments with the same scope active.
structure Framed (s t : Scopes) : Prop where
  active : t.active = s.active
  enclosing : t.enclosing = s.enclosing
  grown : s.next ≤ t.next

structure Restored (before after : Scopes) : Prop where
  active : after.active = before.active
  stored : after.stored = before.stored
  gone : before.next ∉ after.stored.map Prod.fst
  used : before.next < after.next

theorem framed_refl (s : Scopes) : Framed s s := ⟨rfl, rfl, Nat.le_refl _⟩

theorem framed_trans (s t u : Scopes) (first : Framed s t) (second : Framed t u) : Framed s u :=
  ⟨second.active.trans first.active, second.enclosing.trans first.enclosing,
    Nat.le_trans first.grown second.grown⟩

theorem none_stacked : Stacked .none := ⟨rfl, List.Pairwise.nil, fun _ member => nomatch member⟩

theorem stored_below (s : Scopes) (stacked : Stacked s) (row : Nat × Properties)
    (member : row ∈ s.stored) : row.1 < s.next := by
  have key : row.1 ∈ s.stored.map Prod.fst := List.mem_map_of_mem member
  rw [stacked.keys, List.mem_reverse] at key
  exact stacked.below row.1 key

theorem entered_stacked (context : Properties) (s : Scopes) (stacked : Stacked s) :
    Stacked (s.entered context) := by
  refine ⟨?_, ?_, ?_⟩
  · change (s.stored ++ [(s.next, context)]).map Prod.fst = (s.next :: s.active).reverse
    rw [List.map_append, stacked.keys, List.reverse_cons]
    rfl
  · exact List.pairwise_cons.mpr ⟨stacked.below, stacked.ordered⟩
  · intro id member
    change id < s.next + 1
    rcases List.mem_cons.mp member with new | old
    · omega
    · have earlier := stacked.below id old
      omega

theorem set_keys (key : String) (value : Json) (s : Scopes) :
    (s.set key value).stored.map Prod.fst = s.stored.map Prod.fst := by
  unfold set
  cases s.active with
  | nil => rfl
  | cons id rest =>
      rw [List.map_map]
      refine List.map_congr_left ?_
      intro row _
      by_cases here : row.1 = id
      · simp [here]
      · simp [here]

theorem set_active (key : String) (value : Json) (s : Scopes) :
    (s.set key value).active = s.active ∧ (s.set key value).next = s.next := by
  obtain ⟨next, stored, active⟩ := s
  cases active with
  | nil => exact ⟨rfl, rfl⟩
  | cons id rest => exact ⟨rfl, rfl⟩

theorem set_stacked (key : String) (value : Json) (s : Scopes) (stacked : Stacked s) :
    Stacked (s.set key value) := by
  obtain ⟨active, next⟩ := set_active key value s
  refine ⟨?_, ?_, ?_⟩
  · rw [set_keys, active]
    exact stacked.keys
  · rw [active]
    exact stacked.ordered
  · rw [active, next]
    exact stacked.below

theorem written_others (id : Nat) (f : Properties → Properties) (rows : List (Nat × Properties)) :
    (rows.map fun row => if row.1 = id then (row.1, f row.2) else row).filter (·.1 != id) =
      rows.filter (·.1 != id) := by
  induction rows with
  | nil => rfl
  | cons row rest ih =>
      rw [List.map_cons]
      by_cases here : row.1 = id
      · simpa [here] using ih
      · simp [here, ih]

-- A write goes to the active scope and to no scope around it.
theorem set_framed (key : String) (value : Json) (s : Scopes) : Framed s (s.set key value) := by
  obtain ⟨active, next⟩ := set_active key value s
  refine ⟨active, ?_, Nat.le_of_eq next.symm⟩
  rw [enclosing, enclosing, active]
  obtain ⟨next, stored, entered⟩ := s
  cases entered with
  | nil => rfl
  | cons id rest => exact written_others id (Properties.insert key value) stored

-- The end of a scope, after anything that left the scope active and did not touch those around it.
theorem left_restored (context : Properties) (s t : Scopes) (stacked : Stacked s)
    (framed : Framed (s.entered context) t) :
    t.active.head? = some s.next ∧ Restored s (t.left s.next) := by
  have top : t.active = s.next :: s.active := framed.active
  have head : t.active.head? = some s.next := by rw [top]; rfl
  have others : ∀ row ∈ s.stored, (row.1 != s.next) = true := by
    intro row member
    have earlier := stored_below s stacked row member
    simp only [bne_iff_ne]
    omega
  have stored : t.stored.filter (fun row => row.1 != s.next) = s.stored := by
    have kept := framed.enclosing
    rw [enclosing, enclosing, head] at kept
    change t.stored.filter (fun row => row.1 != s.next) =
      (s.stored ++ [(s.next, context)]).filter (fun row => row.1 != s.next) at kept
    rw [kept, List.filter_append, List.filter_eq_self.mpr others]
    simp
  refine ⟨head, ?_, stored, ?_, ?_⟩
  · change (if t.active.head? = some s.next then t.active.tail else _) = _
    rw [if_pos head, top]
    rfl
  · change s.next ∉ (t.stored.filter (fun row => row.1 != s.next)).map Prod.fst
    rw [stored]
    intro key
    obtain ⟨row, member, same⟩ := List.mem_map.mp key
    have earlier := stored_below s stacked row member
    omega
  · exact Nat.lt_of_lt_of_le (Nat.lt_succ_self s.next) framed.grown

theorem restored_stacked (s t : Scopes) (stacked : Stacked s) (restored : Restored s t) :
    Stacked t := by
  refine ⟨?_, ?_, ?_⟩
  · rw [restored.stored, restored.active]
    exact stacked.keys
  · rw [restored.active]
    exact stacked.ordered
  · rw [restored.active]
    intro id member
    exact Nat.lt_trans (stacked.below id member) restored.used

theorem restored_framed (s t : Scopes) (restored : Restored s t) : Framed s t := by
  refine ⟨restored.active, ?_, Nat.le_of_lt restored.used⟩
  rw [enclosing, enclosing, restored.active, restored.stored]

end StructuredLog.Scopes
