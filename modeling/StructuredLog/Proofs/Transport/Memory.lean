import Mathlib.Data.List.DropRight
import Mathlib.Data.List.Forall2
import StructuredLog.Proofs.Transport.Dispatch

set_option autoImplicit false

namespace StructuredLog

def Record.Shows (r : Record) (s : Snapshot) : Prop :=
  ∃ after, Act.Returns readSnapshot r s after

namespace Memory

inductive Use where
  | send (record : Record)
  | clear

namespace Use

def act (platform : Platform) : Use → Act Event Transport Delivery
  | .send record => Act.withLocal record (Transport.send platform)
  | .clear => do
      Act.modify Transport.cleared
      return .ok ()

def record? : Use → Option Record
  | .send record => some record
  | .clear => none

def isSend (u : Use) : Bool := u.record?.isSome

def Readable (u : Use) : Prop := ∀ r ∈ u.record?, ∃ s, r.Shows s

end Use

def useAll (platform : Platform) : List Use → Act Event Transport (List Delivery)
  | [] => return []
  | u :: rest => do
      let delivery ← u.act platform
      return delivery :: (← useAll platform rest)

-- The records sent since the buffer was last cleared, or ever if it was not.
def sinceClear (uses : List Use) : List Record := (uses.rtakeWhile Use.isSend).filterMap Use.record?

structure Newest {α : Type} (capacity : Option Nat) (all kept : List α) : Prop where
  suffix : kept <:+ all
  length : kept.length = match capacity with
    | none => all.length
    | some n => min n all.length

structure Window (capacity : Option Nat) (sent kept : List Snapshot) : Prop where
  newest : Newest capacity sent kept
  last : last? kept = if capacity = some 0 then none else sent.getLast?
  texts : Newest capacity (sent.map Snapshot.text) (texts kept)
  levels : ∀ level, atLevel level kept = kept.filter (fun s => s.level = level) ∧
    atLevel level kept <:+ sent.filter (fun s => s.level = level)

theorem newest_nil {α : Type} (capacity : Option Nat) : Newest capacity ([] : List α) [] := by
  refine ⟨List.suffix_rfl, ?_⟩
  cases capacity <;> simp

theorem push_newest (capacity : Option Nat) (sent kept : List Snapshot) (s : Snapshot)
    (newest : Newest capacity sent kept) :
    Newest capacity (sent ++ [s]) (push capacity kept s) := by
  obtain ⟨suffix, length⟩ := newest
  have longer : kept ++ [s] <:+ sent ++ [s] := by
    obtain ⟨older, rfl⟩ := suffix
    exact ⟨older, by rw [List.append_assoc]⟩
  cases capacity with
  | none =>
      refine ⟨longer, ?_⟩
      simpa [push] using length
  | some n =>
      refine ⟨(List.drop_suffix _ _).trans longer, ?_⟩
      simp only [push, List.length_drop, List.length_append, List.length_singleton] at length ⊢
      omega

theorem newest_map {α β : Type} (f : α → β) (capacity : Option Nat) (all kept : List α)
    (newest : Newest capacity all kept) : Newest capacity (all.map f) (kept.map f) := by
  refine ⟨newest.suffix.map f, ?_⟩
  rw [List.length_map, List.length_map]
  exact newest.length

theorem newest_last {α : Type} (capacity : Option Nat) (all kept : List α)
    (newest : Newest capacity all kept) :
    kept.getLast? = if capacity = some 0 then none else all.getLast? := by
  obtain ⟨⟨older, rfl⟩, length⟩ := newest
  by_cases room : capacity = some 0
  · subst room
    have empty : kept = [] := List.eq_nil_of_length_eq_zero (by simpa using length)
    rw [empty]
    rfl
  · have nothing : kept = [] → older = [] := by
      rintro rfl
      apply List.eq_nil_of_length_eq_zero
      cases capacity with
      | none => simpa using length.symm
      | some n =>
          have positive : n ≠ 0 := fun none => room (congrArg some none)
          simp only [List.length_nil, List.append_nil] at length
          omega
    rw [if_neg room, List.getLast?_append]
    cases last : kept.getLast? with
    | some a => rfl
    | none =>
        rw [nothing (List.getLast?_eq_none_iff.mp last)]
        rfl

theorem newest_window (capacity : Option Nat) (sent kept : List Snapshot)
    (newest : Newest capacity sent kept) : Window capacity sent kept where
  newest := newest
  last := newest_last capacity sent kept newest
  texts := newest_map Snapshot.text capacity sent kept newest
  levels := by
    intro level
    have same : atLevel level kept = kept.filter (fun s => s.level = level) :=
      List.filter_congr fun s _ => beq_eq_decide s.level level
    rw [same]
    exact ⟨rfl, newest.suffix.filter _⟩

section Uses

variable (platform : Platform)

theorem send_kept (id : String) (enabled : Bool) (capacity : Option Nat) (kept : List Snapshot)
    (r : Record) (s : Snapshot) (shows : r.Shows s) :
    Act.Returns ((Use.send r).act platform) ⟨id, enabled, .memory capacity kept false⟩ (.ok ())
      ⟨id, enabled, .memory capacity (push capacity kept s) false⟩ := by
  obtain ⟨after, read⟩ := shows
  exact Act.returns_with_local r (Transport.send platform) _ _ after _
    (Transport.send_to_memory platform id enabled capacity kept r after s read)

theorem clear_kept (id : String) (enabled : Bool) (capacity : Option Nat) (kept : List Snapshot) :
    Act.Returns (Use.clear.act platform) ⟨id, enabled, .memory capacity kept false⟩ (.ok ())
      ⟨id, enabled, .memory capacity [] false⟩ :=
  Act.returns_bind _ _ _ _ _ _ _ (Act.returns_modify _ _) (Act.returns_pure _ _)

theorem use_all_concat (uses : List Use) (u : Use) :
    useAll platform (uses ++ [u]) = do
      let deliveries ← useAll platform uses
      let delivery ← u.act platform
      return deliveries ++ [delivery] := by
  induction uses with
  | nil => simp [useAll]
  | cons v rest ih => simp [useAll, ih]

theorem use_all_then (uses : List Use) (u : Use) (t next after : Transport)
    (deliveries : List Delivery) (delivery : Delivery)
    (before : Act.Returns (useAll platform uses) t deliveries next)
    (here : Act.Returns (u.act platform) next delivery after) :
    Act.Returns (useAll platform (uses ++ [u])) t (deliveries ++ [delivery]) after := by
  rw [use_all_concat platform]
  exact Act.returns_bind _ _ _ _ _ _ _ before
    (Act.returns_bind _ _ _ _ _ _ _ here (Act.returns_pure _ _))

theorem since_clear_send (uses : List Use) (r : Record) :
    sinceClear (uses ++ [.send r]) = sinceClear uses ++ [r] := by
  rw [sinceClear, List.rtakeWhile_concat_pos _ _ _ rfl, List.filterMap_append]
  rfl

theorem since_clear_clear (uses : List Use) : sinceClear (uses ++ [.clear]) = [] := by
  rw [sinceClear, List.rtakeWhile_concat_neg _ _ _ Bool.false_ne_true]
  rfl

theorem use_all_keeps (id : String) (enabled : Bool) (capacity : Option Nat) (uses : List Use)
    (readable : ∀ u ∈ uses, u.Readable) :
    ∃ sent kept, List.Forall₂ Record.Shows (sinceClear uses) sent ∧ Newest capacity sent kept ∧
      Act.Returns (useAll platform uses) ⟨id, enabled, .memory capacity [] false⟩
        (uses.map fun _ => .ok ()) ⟨id, enabled, .memory capacity kept false⟩ := by
  induction uses using List.reverseRecOn with
  | nil => exact ⟨[], [], .nil, newest_nil capacity, Act.returns_pure _ _⟩
  | append_singleton uses u ih =>
      obtain ⟨sent, kept, shown, newest, ran⟩ := ih fun v member => readable v (by simp [member])
      rw [List.map_append]
      cases u with
      | send r =>
          obtain ⟨s, shows⟩ := readable (.send r) (by simp) r rfl
          rw [since_clear_send]
          exact ⟨sent ++ [s], push capacity kept s, List.rel_append shown (.cons shows .nil),
            push_newest capacity sent kept s newest,
            use_all_then platform uses _ _ _ _ _ _ ran
              (send_kept platform id enabled capacity kept r s shows)⟩
      | clear =>
          rw [since_clear_clear]
          exact ⟨[], [], .nil, newest_nil capacity,
            use_all_then platform uses _ _ _ _ _ _ ran
              (clear_kept platform id enabled capacity kept)⟩

theorem memory_is_a_sliding_window (id : String) (enabled : Bool) (capacity : Option Nat)
    (uses : List Use) (readable : ∀ u ∈ uses, u.Readable) :
    ∃ sent kept, List.Forall₂ Record.Shows (sinceClear uses) sent ∧
      Act.Returns (useAll platform uses) ⟨id, enabled, .memory capacity [] false⟩
        (uses.map fun _ => .ok ()) ⟨id, enabled, .memory capacity kept false⟩ ∧
      Window capacity sent kept := by
  obtain ⟨sent, kept, shown, newest, ran⟩ :=
    use_all_keeps platform id enabled capacity uses readable
  exact ⟨sent, kept, shown, ran, newest_window capacity sent kept newest⟩

end Uses

def noted (text : String) : Record :=
  ⟨⟨.info, [], "[Logger]", 0⟩, .pending ⟨[], .returned [("n", .null)]⟩,
    .printed [⟨.literal, text⟩] (.text text)⟩

theorem noted_readable (text : String) : (Use.send (noted text)).Readable := by
  rintro r ⟨⟩
  exact ⟨_, _, _, rfl⟩

theorem memory_is_a_sliding_window_past_a_clear :
    let uses : List Use := [.send (noted "a"), .clear, .send (noted "b"), .send (noted "c")]
    (∀ u ∈ uses, u.Readable) ∧
      ∃ sent kept, List.Forall₂ Record.Shows (sinceClear uses) sent ∧
        Act.Returns (useAll .standard uses) ⟨"m", true, .memory (some 1) [] false⟩
          (uses.map fun _ => .ok ()) ⟨"m", true, .memory (some 1) kept false⟩ ∧
        Window (some 1) sent kept := by
  intro uses
  have readable : ∀ u ∈ uses, u.Readable := by
    intro u member
    simp only [uses, List.mem_cons, List.not_mem_nil, or_false] at member
    rcases member with rfl | rfl | rfl | rfl
    · exact noted_readable "a"
    · rintro r ⟨⟩
    · exact noted_readable "b"
    · exact noted_readable "c"
  exact ⟨readable, memory_is_a_sliding_window .standard "m" true (some 1) uses readable⟩

example : (useAll .standard [.send (noted "a"), .send (noted "b")]
    ⟨"m", true, .memory (some 0) [] false⟩).state =
    ⟨"m", true, .memory (some 0) [] false⟩ := rfl

end Memory

end StructuredLog
