import StructuredLog.Proofs.Logger.Family
import StructuredLog.Proofs.Transport.Dispatch

set_option autoImplicit false

namespace StructuredLog

namespace Kin

theorem notify_all_hear (level : Level) (r : Record) (subscribers : List Subscriber) (k : Kin) :
    Act.Returns (notifyAll hear level subscribers) (k, r) ()
      ({ k with heard := k.heard ++ subscribers.map fun s => (s.listener, level, r) }, r) := by
  induction subscribers generalizing k with
  | nil =>
      rw [List.map_nil, List.append_nil]
      exact Act.returns_pure () (k, r)
  | cons s rest ih =>
      have later := ih { k with heard := k.heard ++ [(s.listener, level, r)] }
      rw [List.append_assoc] at later
      exact Act.returns_bind _ _ _ _ _ _ _ (Act.returns_modify _ _) later

def listeners (l : Logger) (k : Kin) : List Subscriber :=
  (k.engine.registries[l.registry]?.map Registry.subscribers).getD []

theorem log_disabled (l : Logger) (level : Level) (source : Source) (k : Kin) (f : Family)
    (known : k.engine.families[l.family]? = some f) (off : f.enabled = false) :
    Act.Returns (l.log hear level source) k (.ok ()) k := by
  unfold Logger.log
  refine Act.returns_bind _ _ _ _ _ _ _ (Act.returns_get _) ?_
  change l.family? (Host.engine k) = some f at known
  simp only [known, off, Bool.false_eq_true, if_false]
  exact Act.returns_pure _ _

def heading (l : Logger) (level : Level) (f : Family) (k : Kin) : Header :=
  ⟨level, l.category, f.label, k.engine.clock⟩

theorem deliver_hear (l : Logger) (level : Level) (r : Record) (k : Kin) (pool : Pool)
    (delivery : Delivery) (deliver : Act Event (Kin × Record) Delivery)
    (delivered : Act.Returns deliver (k, r) delivery
      ({ k with engine := { k.engine with transports := pool } }, r)) :
    Act.Returns (do let delivery ← deliver; Logger.notify hear l.registry level; return delivery)
      (k, r) delivery
      ({ k with
        engine := { k.engine with transports := pool }
        heard := k.heard ++ (listeners l k).map fun s => (s.listener, level, r) }, r) := by
  refine Act.returns_bind _ _ _ _ _ _ _ delivered ?_
  refine Act.returns_bind _ _ _ _ _ () _ ?_ (Act.returns_pure _ _)
  refine Act.returns_bind _ _ _ _ _ _ _ (Act.returns_get _) ?_
  exact notify_all_hear level _ _ _

theorem log_recorded (l : Logger) (level : Level) (message : Eager) (k next : Kin) (f : Family)
    (known : k.engine.families[l.family]? = some f) (on : f.enabled = true) (r : Record)
    (made : r = message.record (heading l level f k) (Logger.ambient f k.engine))
    (delivery : Delivery)
    (served : Act.Returns
      (if f.threshold.passes level then
        do
          let delivery ← Logger.deliver k.engine.platform f.transports
          Logger.notify hear l.registry level
          return delivery
      else do let delivery ← pure (.ok ()); Logger.notify hear l.registry level; return delivery)
      (k, r) delivery (next, r)) :
    Act.Returns (l.log hear level message.source) k delivery next := by
  have eager := Record.build_eager (heading l level f k) (Logger.ambient f k.engine) message
  rw [← made] at eager
  unfold Logger.log
  refine Act.returns_bind _ _ _ _ _ _ _ (Act.returns_get _) ?_
  change l.family? (Host.engine k) = some f at known
  simp only [known, on, if_true]
  change (Record.build ⟨level, l.category, f.label, (Host.engine k).clock⟩
    (Logger.ambient f (Host.engine k)) message.source).1 = r at eager
  rw [eager]
  refine Act.returns_bind _ _ _ _ _ () _ (Act.returns_emit_all _ _) ?_
  exact Act.returns_with_local r _ _ _ r _ served

-- The transports hear of it when the level passes, the subscribers of the member in any case.
theorem log_enabled (l : Logger) (level : Level) (message : Eager) (k : Kin) (f : Family)
    (known : k.engine.families[l.family]? = some f) (on : f.enabled = true)
    (slots : (f.transports.refs.map TransportRef.slot).Nodup) :
    ∃ delivery pool, Act.Returns (l.log hear level message.source) k delivery
        { k with
          engine := { k.engine with transports := pool }
          heard := k.heard ++ (listeners l k).map fun s => (s.listener, level,
            message.record (heading l level f k) (Logger.ambient f k.engine)) } ∧
      Manager.SameFlags k.engine.transports pool ∧
      ∀ x ∈ f.transports.refs, ∀ enabled kept,
        k.engine.transports[x.slot]? = some ⟨x.id, enabled, .memory none kept false⟩ →
        pool[x.slot]? = some ⟨x.id, enabled, .memory none
          (kept ++ if enabled && f.threshold.passes level then
            [message.snapshot (heading l level f k) (Logger.ambient f k.engine)]
          else []) false⟩ := by
  have settled := Record.eager_settled (heading l level f k) (Logger.ambient f k.engine) message
  cases passed : f.threshold.passes level with
  | false =>
      refine ⟨.ok (), k.engine.transports, ?_, fun _ => rfl, ?_⟩
      · refine log_recorded l level message k _ f known on _ rfl _ ?_
        rw [passed]
        exact deliver_hear l level _ k k.engine.transports _ _ (Act.returns_pure _ _)
      · intro x member enabled kept known
        simpa using known
  | true =>
      obtain ⟨delivery, pool, dispatched, same, untouched, stored⟩ :=
        Manager.dispatch_all_settled k.engine.platform f.transports.refs k.engine.transports _
          settled slots
      refine ⟨delivery, pool, ?_, same, ?_⟩
      · refine log_recorded l level message k _ f known on _ rfl _ ?_
        rw [passed]
        refine deliver_hear l level _ k pool _ _ ?_
        exact Act.returns_within (fun s : Kin × Record => ((Host.engine s.1).transports, s.2)) _
          (f.transports.dispatch k.engine.platform) (k, _) (pool, _) delivery dispatched
      · intro x member enabled kept known
        rw [Bool.and_true]
        exact stored x member enabled kept _ (Record.read_snapshot_eager _ _ message) known

theorem perform_log (who : Nat) (l : Logger) (level : Level) (message : Eager) (k next : Kin)
    (delivery : Delivery) (member : k.members[who]? = some l)
    (ran : Act.Returns (l.log hear level message.source) k delivery next) :
    Act.Returns (perform (.log who level message)) k () next := by
  refine Act.returns_bind _ _ _ _ _ _ _ (Act.returns_get k) ?_
  simp only [member]
  exact Act.returns_bind _ _ _ _ _ _ _ ran (Act.returns_pure () next)

theorem perform_log_absent (who : Nat) (level : Level) (message : Eager) (k : Kin)
    (absent : k.members[who]? = none) :
    Act.Returns (perform (.log who level message)) k () k := by
  refine Act.returns_bind _ _ _ _ _ _ _ (Act.returns_get k) ?_
  simp only [absent]
  exact Act.returns_pure () k

end Kin

end StructuredLog
