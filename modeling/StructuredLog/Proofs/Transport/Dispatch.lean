import StructuredLog.Proofs.Record.Settled
import StructuredLog.Transport.Manager

set_option autoImplicit false

namespace StructuredLog

open Record

namespace Console

theorem part_segments_steady (part : LayoutPart) : Steady (partSegments part) := by
  cases part with
  | levelUpper => exact steady_bind _ _ steady_get fun _ => steady_pure _
  | text => exact steady_bind _ _ read_text_steady fun _ => steady_pure _
  | category => exact steady_bind _ _ steady_get fun _ => steady_pure _
  | raw => exact steady_bind _ _ read_raw_steady fun _ => steady_pure _

theorem all_parts_steady (parts : List LayoutPart) : Steady (allParts parts) := by
  induction parts with
  | nil => exact steady_pure _
  | cons part rest ih =>
      exact steady_bind _ _ (part_segments_steady part) fun _ =>
        steady_bind _ _ ih fun _ => steady_pure _

theorem segments_steady (zone : Time.Zone) (c : Console) : Steady (c.segments zone) := by
  unfold segments
  cases c.layout with
  | custom parts => exact all_parts_steady parts
  | standard =>
      exact steady_bind _ _ steady_get fun _ =>
        steady_bind _ _ read_message_steady fun _ => steady_pure _

theorem line_steady (zone : Time.Zone) (c : Console) : Steady (c.line zone) :=
  steady_bind _ _ (segments_steady zone c) fun _ => steady_pure _

end Console

namespace Transport

def face (t : Transport) : String × Bool := (t.id, t.enabled)

theorem forward_steady (traced : Level → Bool) : Steady (forward traced) := by
  refine steady_bind _ _ steady_get fun r => ?_
  refine steady_bind _ _ read_properties_steady fun _ => ?_
  cases traced r.header.level with
  | false => exact steady_pure _
  | true => exact steady_bind _ _ read_text_steady fun _ => steady_pure _

theorem read_record_returns {α : Type} (m : Reading α) (t : Transport) (r : Record) (a : α)
    (returned : Act.Returns m r a r) : Act.Returns (readRecord m) (t, r) a (t, r) :=
  Act.returns_within Prod.snd _ m (t, r) r a returned

theorem store_returns (id : String) (capacity : Option Nat) (kept : List Snapshot)
    (snapshot : Snapshot) (t : Transport) (r : Record) :
    Act.Returns (store id capacity kept false snapshot) (t, r) (.ok ())
      ({ t with sink := .memory capacity (Memory.push capacity kept snapshot) false }, r) := by
  rw [store_pushed]
  exact Act.returns_bind _ _ _ _ _ _ _ (Act.returns_modify _ _) (Act.returns_pure _ _)

section Sending

variable (platform : Platform)

theorem send_settled (t : Transport) (r : Record) (settled : Settled r) :
    ∃ delivery sink, Act.Returns (send platform) (t, r) delivery ({ t with sink := sink }, r) := by
  obtain ⟨id, enabled, sink⟩ := t
  cases sink with
  | memory capacity kept poisoned =>
      obtain ⟨snapshot, returned⟩ := read_snapshot_steady r settled
      have read := read_record_returns _ ⟨id, enabled, .memory capacity kept poisoned⟩ r _ returned
      cases poisoned with
      | true =>
          refine ⟨.error (.rejected id Memory.poisoned), .memory capacity kept true, ?_⟩
          exact Act.returns_bind _ _ _ _ _ _ _ (Act.returns_get _)
            (Act.returns_bind _ _ _ _ _ _ _ read (Act.returns_pure _ _))
      | false =>
          refine ⟨.ok (), .memory capacity (Memory.push capacity kept snapshot) false, ?_⟩
          exact Act.returns_bind _ _ _ _ _ _ _ (Act.returns_get _)
            (Act.returns_bind _ _ _ _ _ _ _ read (store_returns _ _ _ _ _ _))
  | console c =>
      obtain ⟨line, returned⟩ := Console.line_steady platform.zone c r settled
      let written := Console.write platform.refusal id (line ++ "\n") c.device
      refine ⟨written.1, .console { c with device := written.2.1 }, ?_⟩
      exact Act.returns_bind _ _ _ _ _ _ _ (Act.returns_get _)
        (Act.returns_bind _ _ _ _ _ _ _ (read_record_returns _ _ _ _ returned)
          (Act.returns_bind _ _ _ _ _ _ _ (Act.returns_modify _ _)
            (Act.returns_bind _ _ _ _ _ _ _ (Act.returns_emit_all _ _) (Act.returns_pure _ _))))
  | forwarding =>
      obtain ⟨diagnostic, returned⟩ := forward_steady platform.traced r settled
      refine ⟨.ok (), .forwarding, ?_⟩
      exact Act.returns_bind _ _ _ _ _ _ _ (Act.returns_get _)
        (Act.returns_bind _ _ _ _ _ _ _ (read_record_returns _ _ _ _ returned)
          (Act.returns_bind _ _ _ _ _ _ _ (Act.returns_emit_all _ _) (Act.returns_pure _ _)))
  | failing reason attempts =>
      refine ⟨.error (.rejected id reason), .failing reason (attempts + 1), ?_⟩
      exact Act.returns_bind _ _ _ _ _ _ _ (Act.returns_get _)
        (Act.returns_bind _ _ _ _ _ _ _ (Act.returns_modify _ _) (Act.returns_pure _ _))

theorem send_to_memory (id : String) (enabled : Bool) (capacity : Option Nat)
    (kept : List Snapshot) (r after : Record) (snapshot : Snapshot)
    (read : Act.Returns readSnapshot r snapshot after) :
    Act.Returns (send platform) (⟨id, enabled, .memory capacity kept false⟩, r) (.ok ())
      (⟨id, enabled, .memory capacity (Memory.push capacity kept snapshot) false⟩, after) :=
  Act.returns_bind _ _ _ _ _ _ _ (Act.returns_get _)
    (Act.returns_bind _ _ _ _ _ _ _ (Act.returns_within _ _ _ _ after snapshot read)
      (store_returns _ _ _ _ _ _))

end Sending

end Transport

namespace Manager

def SameFlags (pool next : Pool) : Prop :=
  ∀ slot : Nat, (next[slot]?).map Transport.face = (pool[slot]?).map Transport.face

theorem map_set {β : Type} (f : Transport → β) (pool : Pool) (slot : Nat) (t served : Transport)
    (known : pool[slot]? = some t) (same : f served = f t) (other : Nat) :
    ((pool.set slot served)[other]?).map f = (pool[other]?).map f := by
  rw [List.getElem?_set]
  by_cases here : slot = other
  · subst other
    have bound := (List.getElem?_eq_some_iff.mp known).1
    rw [if_pos rfl, if_pos bound, known]
    exact congrArg some same
  · rw [if_neg here]

theorem same_flags_set (pool : Pool) (slot : Nat) (t served : Transport)
    (known : pool[slot]? = some t) (same : served.face = t.face) :
    SameFlags pool (pool.set slot served) :=
  map_set Transport.face pool slot t served known same

variable (platform : Platform)

theorem send_to_settled (slot : Nat) (pool : Pool) (r : Record) (settled : Settled r) :
    ∃ delivery next, Act.Returns (sendTo platform slot) (pool, r) delivery (next, r) ∧
      SameFlags pool next ∧ ∀ other, other ≠ slot → next[other]? = pool[other]? := by
  cases known : pool[slot]? with
  | none =>
      exact ⟨.ok (), pool, ⟨[], by simp only [sendTo, known]⟩, fun _ => rfl, fun _ _ => rfl⟩
  | some t =>
      obtain ⟨delivery, sink, events, ran⟩ := Transport.send_settled platform t r settled
      refine ⟨delivery, pool.set slot { t with sink := sink }, ⟨events, ?_⟩,
        same_flags_set pool slot t _ known rfl, ?_⟩
      · simp only [sendTo, known, ran]
      · intro other apart
        exact List.getElem?_set_ne (Ne.symm apart)

theorem send_to_memory (slot : Nat) (pool : Pool) (id : String) (enabled : Bool)
    (capacity : Option Nat) (kept : List Snapshot) (r after : Record) (snapshot : Snapshot)
    (read : Act.Returns readSnapshot r snapshot after)
    (known : pool[slot]? = some ⟨id, enabled, .memory capacity kept false⟩) :
    Act.Returns (sendTo platform slot) (pool, r) (.ok ())
      (pool.set slot ⟨id, enabled, .memory capacity (Memory.push capacity kept snapshot) false⟩,
        after) := by
  obtain ⟨events, ran⟩ :=
    Transport.send_to_memory platform id enabled capacity kept r after snapshot read
  exact ⟨events, by simp only [sendTo, known, ran]⟩

theorem dispatch_disabled (x : TransportRef) (rest : List TransportRef) (pool : Pool) (r : Record)
    (delivery : Delivery) (after : Pool × Record) (off : isEnabled pool x = false)
    (later : Act.Returns (dispatchAll platform rest) (pool, r) delivery after) :
    Act.Returns (dispatchAll platform (x :: rest)) (pool, r) delivery after := by
  rw [dispatchAll]
  refine Act.returns_bind _ _ _ _ _ _ _ (Act.returns_get _) ?_
  simpa only [off, Bool.false_eq_true, if_false] using later

theorem dispatch_enabled (x : TransportRef) (rest : List TransportRef) (pool next : Pool)
    (r : Record) (first delivery : Delivery) (after : Pool × Record)
    (on : isEnabled pool x = true)
    (sent : Act.Returns (sendTo platform x.slot) (pool, r) first (next, r))
    (later : Act.Returns (dispatchAll platform rest) (next, r) delivery after) :
    ∃ result, Act.Returns (dispatchAll platform (x :: rest)) (pool, r) result after := by
  cases first with
  | ok done =>
      refine ⟨delivery, ?_⟩
      rw [dispatchAll]
      refine Act.returns_bind _ _ _ _ _ _ _ (Act.returns_get _) ?_
      simp only [on, if_true]
      exact Act.returns_bind _ _ _ _ _ _ _ sent later
  | error e =>
      refine ⟨.error e, ?_⟩
      rw [dispatchAll]
      refine Act.returns_bind _ _ _ _ _ _ _ (Act.returns_get _) ?_
      simp only [on, if_true]
      refine Act.returns_bind _ _ _ _ _ _ _ sent ?_
      refine Act.returns_bind _ _ _ _ _ _ _ (Act.returns_emit _ _) ?_
      exact Act.returns_bind _ _ _ _ _ _ _ later (Act.returns_pure _ _)

theorem is_enabled_some (pool : Pool) (x : TransportRef) (t : Transport)
    (known : pool[x.slot]? = some t) : isEnabled pool x = t.enabled := by
  simp [isEnabled, known]

-- A dispatch always returns; an unbounded memory in it, if enabled, gains one snapshot.
theorem dispatch_all_settled (refs : List TransportRef) (pool : Pool) (r : Record)
    (settled : Settled r) (slots : (refs.map TransportRef.slot).Nodup) :
    ∃ delivery next, Act.Returns (dispatchAll platform refs) (pool, r) delivery (next, r) ∧
      SameFlags pool next ∧
      (∀ slot, slot ∉ refs.map TransportRef.slot → next[slot]? = pool[slot]?) ∧
      ∀ x ∈ refs, ∀ enabled kept snapshot, Act.Returns readSnapshot r snapshot r →
        pool[x.slot]? = some ⟨x.id, enabled, .memory none kept false⟩ →
        next[x.slot]? = some ⟨x.id, enabled,
          .memory none (kept ++ if enabled = true then [snapshot] else []) false⟩ := by
  induction refs generalizing pool with
  | nil =>
      exact ⟨.ok (), pool, Act.returns_pure _ _, fun _ => rfl, fun _ _ => rfl, by simp⟩
  | cons y rest ih =>
      obtain ⟨absent, slots⟩ := List.nodup_cons.mp slots
      cases on : isEnabled pool y with
      | false =>
          obtain ⟨delivery, next, later, same, untouched, stored⟩ := ih pool slots
          refine ⟨delivery, next, dispatch_disabled platform y rest pool r delivery _ on later, same,
            ?_, ?_⟩
          · intro slot outside
            exact untouched slot (fun member => outside (by simp [member]))
          · intro x member enabled kept snapshot read known
            rcases List.mem_cons.mp member with rfl | inRest
            · have off : enabled = false := by rw [← on, is_enabled_some pool x _ known]
              rw [untouched x.slot absent, known, off]
              simp
            · exact stored x inRest enabled kept snapshot read known
      | true =>
          obtain ⟨first, middle, sent, sameMiddle, others⟩ :=
            send_to_settled platform y.slot pool r settled
          obtain ⟨delivery, next, later, same, untouched, stored⟩ := ih middle slots
          obtain ⟨result, ran⟩ :=
            dispatch_enabled platform y rest pool middle r first delivery _ on sent later
          refine ⟨result, next, ran, ?_, ?_, ?_⟩
          · intro slot
            exact (same slot).trans (sameMiddle slot)
          · intro slot outside
            rw [untouched slot (fun member => outside (by simp [member]))]
            exact others slot (fun here => outside (by simp [here]))
          · intro x member enabled kept snapshot read known
            rcases List.mem_cons.mp member with rfl | inRest
            · have stored' := send_to_memory platform x.slot pool x.id enabled none kept r r
                snapshot read known
              obtain ⟨-, middleEq⟩ := Act.returns_outcome _ _ _ _ sent
              rw [(Act.returns_outcome _ _ _ _ stored').2] at middleEq
              cases middleEq
              have bound := (List.getElem?_eq_some_iff.mp known).1
              have flag : enabled = true := by rw [← on, is_enabled_some pool x _ known]
              rw [untouched x.slot absent, List.getElem?_set_self bound, flag]
              rfl
            · have apart : x.slot ≠ y.slot := by
                intro same
                exact absent (same ▸ List.mem_map_of_mem inRest)
              exact stored x inRest enabled kept snapshot read
                ((others x.slot apart).trans known)

end Manager

end StructuredLog
