import StructuredLog.Logger
import StructuredLog.Proofs.Act
import StructuredLog.Proofs.Subscription.Registry

set_option autoImplicit false

namespace StructuredLog

-- A listener may look at all registries and go on by what it finds.
inductive Deed (μ : Type) where
  | done (memory : μ)
  | look (next : Engine → Deed μ)
  | subscribe (registry listener : Nat) (next : Subscription → Deed μ)
  | unsubscribe (handle : Subscription) (next : Deed μ)
  | clear (registry : Nat) (next : Deed μ)

inductive Operation where
  | register (registry : Nat) (s : Subscriber)
  | unregister (handle : Subscription)
  | clear (registry : Nat)
deriving DecidableEq, Repr

def Operation.applied (place : Nat) (entries : List Subscriber) : Operation → List Subscriber
  | .register registry s => if registry = place then entries ++ [s] else entries
  | .unregister handle =>
      if handle.registry = place then entries.filter fun s => s.id != handle.id else entries
  | .clear registry => if registry = place then [] else entries

structure Desk (μ : Type) where
  engine : Engine
  memory : μ
  called : List (Nat × Level)
  operations : List Operation

namespace Desk

variable {μ : Type}

instance : Host (Desk μ) := ⟨Desk.engine, fun e d => { d with engine := e }⟩

def perform : Deed μ → Desk μ → Desk μ
  | .done memory, d => { d with memory := memory }
  | .look next, d => perform (next d.engine) d
  | .subscribe registry listener next, d =>
      let (handle, e) := d.engine.subscribe registry listener
      perform (next handle)
        { d with
          engine := e
          operations := d.operations ++ [.register registry ⟨handle.id, listener⟩] }
  | .unsubscribe handle next, d =>
      perform next
        { d with
          engine := d.engine.unsubscribe handle
          operations := d.operations ++ [.unregister handle] }
  | .clear registry next, d =>
      perform next
        { d with
          engine := d.engine.modifyRegistry registry .clear
          operations := d.operations ++ [.clear registry] }

def call (conduct : Nat → Level → Record → μ → Deed μ) (n : Nat) (level : Level) :
    Act Event (Desk μ × Record) Unit :=
  Act.modify fun s =>
    (perform (conduct n level s.2 s.1.memory) { s.1 with called := s.1.called ++ [(n, level)] }, s.2)

-- What was called and done between two moments, and what it comes to for one registry.
structure Passed (place : Nat) (calls : List (Nat × Level)) (operations : List Operation)
    (d after : Desk μ) : Prop where
  called : after.called = d.called ++ calls
  made : after.operations = d.operations ++ operations
  left : ∀ r, d.engine.registries[place]? = some r → after.engine.registries[place]? =
    some { r with subscribers := operations.foldl (Operation.applied place) r.subscribers }

theorem passed_nothing (place : Nat) (d : Desk μ) (memory : μ) :
    Passed place [] [] d { d with memory := memory } :=
  ⟨(List.append_nil _).symm, (List.append_nil _).symm, fun _ known => known⟩

theorem passed_trans (place : Nat) (calls more : List (Nat × Level))
    (operations others : List Operation) (d middle after : Desk μ)
    (first : Passed place calls operations d middle) (second : Passed place more others middle after) :
    Passed place (calls ++ more) (operations ++ others) d after := by
  constructor
  case called => rw [second.called, first.called, List.append_assoc]
  case made => rw [second.made, first.made, List.append_assoc]
  case left =>
    intro r known
    rw [second.left _ (first.left r known), List.foldl_append]

theorem passed_operation (place : Nat) (o : Operation) (d : Desk μ) (e : Engine)
    (applied : e.registries[place]? = (d.engine.registries[place]?).map fun r =>
      { r with subscribers := o.applied place r.subscribers }) :
    Passed place [] [o] d { d with engine := e, operations := d.operations ++ [o] } := by
  refine ⟨(List.append_nil _).symm, rfl, ?_⟩
  intro r known
  change e.registries[place]? = _
  rw [applied, known]
  rfl

theorem modify_applied (place registry : Nat) (o : Operation) (f : Registry → Registry) (e : Engine)
    (own : registry = place → ∀ r, f r = { r with subscribers := o.applied place r.subscribers })
    (elsewhere : registry ≠ place → ∀ held, o.applied place held = held) :
    (e.modifyRegistry registry f).registries[place]? = (e.registries[place]?).map fun r =>
      { r with subscribers := o.applied place r.subscribers } := by
  rw [Engine.modify_registry_known]
  refine congrArg (Option.map · _) (funext fun r => ?_)
  by_cases here : registry = place
  · rw [if_pos here, own here]
  · rw [if_neg here, elsewhere here]

theorem subscribe_applied (place registry listener : Nat) (e : Engine) :
    (e.subscribe registry listener).2.registries[place]? = (e.registries[place]?).map fun r =>
      { r with
        subscribers := (Operation.register registry
          ⟨(e.subscribe registry listener).1.id, listener⟩).applied place r.subscribers } := by
  rw [Engine.subscribe_registries]
  refine modify_applied place registry _ _ e ?_ ?_
  · intro here r
    simp [here, Operation.applied, Registry.register]
  · intro apart held
    simp [apart, Operation.applied]

theorem unsubscribe_applied (place : Nat) (handle : Subscription) (e : Engine) :
    (e.unsubscribe handle).registries[place]? = (e.registries[place]?).map fun r =>
      { r with subscribers := (Operation.unregister handle).applied place r.subscribers } := by
  refine modify_applied place handle.registry _ _ e ?_ ?_
  · intro here r
    simp [here, Operation.applied, Registry.unregister]
  · intro apart held
    simp [apart, Operation.applied]

theorem clear_applied (place registry : Nat) (e : Engine) :
    (e.modifyRegistry registry .clear).registries[place]? = (e.registries[place]?).map fun r =>
      { r with subscribers := (Operation.clear registry).applied place r.subscribers } := by
  refine modify_applied place registry _ _ e ?_ ?_
  · intro here r
    simp [here, Operation.applied, Registry.clear]
  · intro apart held
    simp [apart, Operation.applied]

theorem perform_passed (place : Nat) (deed : Deed μ) (d : Desk μ) :
    ∃ operations, Passed place [] operations d (perform deed d) := by
  induction deed generalizing d with
  | done memory => exact ⟨[], passed_nothing place d memory⟩
  | look next ih => exact ih d.engine d
  | subscribe registry listener next ih =>
      obtain ⟨operations, later⟩ := ih _ _
      exact ⟨_, passed_trans place _ _ _ _ _ _ _
        (passed_operation place _ d _ (subscribe_applied place registry listener d.engine)) later⟩
  | unsubscribe handle next ih =>
      obtain ⟨operations, later⟩ := ih _
      exact ⟨_, passed_trans place _ _ _ _ _ _ _
        (passed_operation place _ d _ (unsubscribe_applied place handle d.engine)) later⟩
  | clear registry next ih =>
      obtain ⟨operations, later⟩ := ih _
      exact ⟨_, passed_trans place _ _ _ _ _ _ _
        (passed_operation place _ d _ (clear_applied place registry d.engine)) later⟩

section Notify

variable (conduct : Nat → Level → Record → μ → Deed μ) (place : Nat) (level : Level) (record : Record)

theorem call_passed (n : Nat) (d : Desk μ) :
    ∃ after operations, call conduct n level (d, record) = ⟨.returned (), (after, record), []⟩ ∧
      Passed place [(n, level)] operations d after := by
  obtain ⟨operations, done⟩ := perform_passed place (conduct n level record d.memory)
    { d with called := d.called ++ [(n, level)] }
  have begun : Passed place [(n, level)] [] d { d with called := d.called ++ [(n, level)] } :=
    ⟨rfl, (List.append_nil _).symm, fun _ known => known⟩
  exact ⟨_, operations, rfl, passed_trans place _ _ _ _ _ _ _ begun done⟩

-- The entries are those that the loop was given, whatever becomes of the registry meanwhile.
theorem notify_all_passed (listed : List Subscriber) (d : Desk μ) :
    ∃ after operations,
      notifyAll (call conduct) level listed (d, record) = ⟨.returned (), (after, record), []⟩ ∧
      Passed place (listed.map fun s => (s.listener, level)) operations d after := by
  induction listed generalizing d with
  | nil => exact ⟨d, [], rfl, passed_nothing place d d.memory⟩
  | cons s rest ih =>
      obtain ⟨middle, operations, ran, first⟩ := call_passed conduct place level record s.listener d
      obtain ⟨after, others, ran', later⟩ := ih middle
      refine ⟨after, operations ++ others, ?_, passed_trans place _ _ _ _ _ _ _ first later⟩
      rw [notifyAll, Act.bind_quiet _ _ _ _ _ ran]
      exact ran'

theorem notify_passed (r : Registry) (d : Desk μ) (known : d.engine.registries[place]? = some r) :
    ∃ after operations,
      Logger.notify (call conduct) place level (d, record) = ⟨.returned (), (after, record), []⟩ ∧
      Passed place (r.subscribers.map fun s => (s.listener, level)) operations d after := by
  have listed : (((Host.engine d).registries[place]?).map Registry.subscribers).getD [] =
      r.subscribers := by
    change ((d.engine.registries[place]?).map _).getD [] = _
    rw [known]
    rfl
  unfold Logger.notify
  rw [Act.bind_quiet Act.get _ (d, record) (d, record) (d, record) rfl, listed]
  exact notify_all_passed conduct place level record r.subscribers d

-- The listeners registered when it began are called, each once and in order, whatever they do to
-- the registry; the next notification calls those then registered.
theorem notification_iterates_a_snapshot (r : Registry) (d : Desk μ)
    (known : d.engine.registries[place]? = some r) :
    ∃ after operations,
      Logger.notify (call conduct) place level (d, record) = ⟨.returned (), (after, record), []⟩ ∧
      after.called = d.called ++ r.subscribers.map (fun s => (s.listener, level)) ∧
      after.operations = d.operations ++ operations ∧
      after.engine.registries[place]? =
        some { r with subscribers := operations.foldl (Operation.applied place) r.subscribers } ∧
      ∀ next other, ∃ last,
        Logger.notify (call conduct) place next (after, other) =
          ⟨.returned (), (last, other), []⟩ ∧
        last.called = after.called ++
          (operations.foldl (Operation.applied place) r.subscribers).map
            fun s => (s.listener, next) := by
  obtain ⟨after, operations, ran, passed⟩ := notify_passed conduct place level record r d known
  have left := passed.left r known
  refine ⟨after, operations, ran, passed.called, passed.made, left, ?_⟩
  intro next other
  obtain ⟨last, _, ran', later⟩ := notify_passed conduct place next other _ after left
  exact ⟨last, ran', later.called⟩

end Notify

-- The first listener takes off the second, which is called all the same.
def turncoats : Desk Unit where
  engine :=
    { Engine.empty 0 with
      sources := [.counting "s" 2]
      registries := [⟨[⟨"s-1", 0⟩, ⟨"s-2", 1⟩], 0⟩] }
  memory := ()
  called := []
  operations := []

theorem notification_iterates_a_snapshot_removed_and_added :
    let record : Record := ⟨⟨.info, ["app"], "[L]", 0⟩, .ready [], .printed [] (.text "up")⟩
    let conduct : Nat → Level → Record → Unit → Deed Unit := fun n _ _ _ =>
      match n with
      | 0 => .unsubscribe ⟨0, "s-2"⟩ (.subscribe 0 2 fun _ => .done ())
      | 1 => .unsubscribe ⟨0, "s-1"⟩ (.subscribe 0 3 fun _ => .done ())
      | _ => .done ()
    ∃ after last,
      Logger.notify (call conduct) 0 .info (turncoats, record) =
        ⟨.returned (), (after, record), []⟩ ∧
      after.called = [(0, .info), (1, .info)] ∧
      after.engine.registries = [⟨[⟨"s-3", 2⟩, ⟨"s-4", 3⟩], 0⟩] ∧
      Logger.notify (call conduct) 0 .warn (after, record) = ⟨.returned (), (last, record), []⟩ ∧
      last.called = [(0, .info), (1, .info), (2, .warn), (3, .warn)] := by
  intro record conduct
  obtain ⟨after, operations, ran, called, -, -, again⟩ :=
    notification_iterates_a_snapshot conduct 0 .info record ⟨[⟨"s-1", 0⟩, ⟨"s-2", 1⟩], 0⟩ turncoats rfl
  obtain ⟨last, ran', -⟩ := again .warn record
  cases ran
  cases ran'
  exact ⟨_, _, rfl, called, rfl, rfl, rfl⟩

end Desk

end StructuredLog
