import StructuredLog.Logger
import StructuredLog.Proofs.Transport.Serving

set_option autoImplicit false

namespace StructuredLog

-- A subscriber that only reads: what it reads next may depend on all answers so far.
inductive Reader where
  | done
  | read (q : Question) (next : Answer → Reader)

namespace Reader

variable (zone : Time.Zone)

def run : Reader → Record.Reading (List Answer)
  | .done => pure []
  | .read q next => do
      let answer ← Record.ask zone q
      let answers ← run (next answer)
      return answer :: answers

def misses (u : Unread) : Reader → Bool
  | .done => false
  | .read q next => u.source.asks q || misses u (next (u.answer zone q))

def gathered (u : Unread) : Reader → List Answer
  | .done => []
  | .read q next => u.answer zone q :: gathered u (next (u.answer zone q))

theorem run_gives (u : Unread) (reader : Reader) :
    u.Gives (reader.misses zone u) (reader.run zone) (reader.gathered zone u) := by
  induction reader with
  | done => exact u.gives_pure []
  | read q next ih =>
      exact u.gives_bind _ _ _ _ _ _ (u.gives_answer zone q) (u.gives_map _ (_ :: ·) _ _ (ih _))

end Reader

structure Hearing where
  engine : Engine
  heard : List (Nat × Level × List Answer)

instance : Host Hearing := ⟨Hearing.engine, fun e w => { w with engine := e }⟩

inductive Party where
  | transport (ref : TransportRef)
  | listener (s : Subscriber)

namespace Hearing

def pool (w : Hearing) : Pool := w.engine.transports

def setPool (pool : Pool) (w : Hearing) : Hearing :=
  { w with engine := { w.engine with transports := pool } }

def note (n : Nat) (level : Level) (answers : List Answer) (w : Hearing) : Hearing :=
  { w with heard := w.heard ++ [(n, level, answers)] }

def listen (zone : Time.Zone) (readers : Nat → Level → Reader) (n : Nat) (level : Level) :
    Act Event (Hearing × Record) Unit := do
  let answers ← Act.within Prod.snd (fun r s => (s.1, r)) ((readers n level).run zone)
  Act.modify fun s => (s.1.note n level answers, s.2)

end Hearing

namespace Delivery

def first (earlier later : Delivery) : Delivery :=
  match earlier with
  | .ok () => later
  | .error e => .error e

theorem first_ok (d : Delivery) : first d (.ok ()) = d := by
  cases d with
  | ok done => rfl
  | error e => rfl

end Delivery

namespace Party

section Each

variable {π σ : Type} (act : π → Act Event σ Delivery)

def each : List π → Act Event σ Delivery
  | [] => pure (.ok ())
  | p :: rest => do
      let one ← act p
      let others ← each rest
      return Delivery.first one others

theorem each_append (xs ys : List π) :
    each act (xs ++ ys) = (do
      let one ← each act xs
      let others ← each act ys
      return Delivery.first one others) := by
  induction xs with
  | nil => simp only [List.nil_append, each, pure_bind, Delivery.first, bind_pure]
  | cons x xs ih =>
      have grouped : ∀ a b c, Delivery.first (Delivery.first a b) c =
          Delivery.first a (Delivery.first b c) := by
        intro a b c
        cases a <;> rfl
      simp only [List.cons_append, each, ih, bind_assoc, pure_bind, grouped]

def preceded (d : Delivery) (events : List Event) (ran : Ran Event σ Delivery) :
    Ran Event σ Delivery where
  outcome :=
    match ran.outcome with
    | .returned later => .returned (Delivery.first d later)
    | .panicked message => .panicked message
  state := ran.state
  events := events ++ ran.events

theorem preceded_ok (events : List Event) (ran : Ran Event σ Delivery) :
    preceded (.ok ()) events ran = ⟨ran.outcome, ran.state, events ++ ran.events⟩ := by
  obtain ⟨outcome, s, more⟩ := ran
  cases outcome with
  | returned d => rfl
  | panicked message => rfl

theorem each_cons_returned (p : π) (rest : List π) (s t : σ) (d : Delivery) (events : List Event)
    (ran : act p s = ⟨.returned d, t, events⟩) :
    each act (p :: rest) s = preceded d events (each act rest t) := by
  refine (Act.bind_returned _ _ _ _ _ _ ran).trans ?_
  unfold preceded
  generalize each act rest t = others
  obtain ⟨outcome, v, more⟩ := others
  cases outcome with
  | returned later => simp [pure, Act.pure]
  | panicked message => rfl

end Each

end Party

namespace Manager

def atSlot (m : Act Event Transport Delivery) (slot : Nat) : Act Event Pool Delivery := fun pool =>
  match pool[slot]? with
  | none => ⟨.returned (.ok ()), pool, []⟩
  | some t =>
      match m t with
      | ⟨outcome, t, events⟩ => ⟨outcome, pool.set slot t, events⟩

def toRef (level : Level) (m : Act Event Transport Delivery) (ref : TransportRef) :
    Act Event Pool Delivery := do
  let pool ← Act.get
  if isEnabled pool ref then
    match ← atSlot m ref.slot with
    | .ok () => return .ok ()
    | .error e =>
        Act.emit (.diagnostic (.deliveryFailed ref.id level e))
        return .error e
  else return .ok ()

end Manager

namespace Unread

variable (u : Unread) (platform : Platform) (readers : Nat → Level → Reader)

theorem send_to_keeps (slot : Nat) :
    u.Keeps (Manager.sendTo platform slot) (Manager.atSlot (u.offer platform) slot) := by
  intro pool
  unfold Manager.sendTo Manager.atSlot
  dsimp only
  cases pool[slot]? with
  | none => exact .returned _ _ _
  | some t =>
      have sent := u.send_keeps platform t
      dsimp only
      generalize Transport.send platform (t, u.record) = ran at sent
      generalize u.offer platform t = seen at sent
      cases sent with
      | returned d t events => exact .returned d _ events
      | panicked message t r events => exact .panicked message _ r events

def reported (ref : TransportRef) (rest : Act Event Pool Delivery) :
    Delivery → Act Event Pool Delivery
  | .ok () => rest
  | .error e => do
      Act.emit (.diagnostic (.deliveryFailed ref.id u.header.level e))
      let _ ← rest
      return .error e

theorem each_to_ref (ref : TransportRef) (rest : List TransportRef) (pool : Pool) :
    Party.each (Manager.toRef u.header.level (u.offer platform)) (ref :: rest) pool =
      (if Manager.isEnabled pool ref then
        Manager.atSlot (u.offer platform) ref.slot >>=
          u.reported ref (Party.each (Manager.toRef u.header.level (u.offer platform)) rest)
      else Party.each (Manager.toRef u.header.level (u.offer platform)) rest) pool := by
  rw [Party.each, Manager.toRef, bind_assoc, Act.bind_quiet Act.get _ pool pool pool rfl]
  by_cases on : Manager.isEnabled pool ref
  · simp only [on, if_true, bind_assoc]
    refine congrFun (bind_congr fun d => ?_) pool
    cases d with
    | ok done => simp only [reported, pure_bind, Delivery.first, bind_pure]
    | error e => simp only [reported, bind_assoc, pure_bind, Delivery.first]
  · rw [if_neg on, if_neg on, pure_bind]
    simp only [Delivery.first, bind_pure]

theorem dispatch_keeps (refs : List TransportRef) :
    u.Keeps (Manager.dispatchAll platform refs)
      (Party.each (Manager.toRef u.header.level (u.offer platform)) refs) := by
  induction refs with
  | nil => exact u.keeps_pure _
  | cons ref rest ih =>
      intro pool
      rw [Manager.dispatchAll, each_to_ref,
        Act.bind_quiet Act.get _ (pool, u.record) (pool, u.record) (pool, u.record) rfl]
      dsimp only
      rw [u.record_header]
      by_cases on : Manager.isEnabled pool ref
      · rw [if_pos on, if_pos on]
        refine u.keeps_bind _ _ _ _ (u.send_to_keeps platform ref.slot) ?_ pool
        intro d
        cases d with
        | ok done => exact ih
        | error e =>
            refine u.keeps_bind _ _ _ _ (u.keeps_emit _) fun _ => ?_
            exact u.keeps_bind _ _ _ _ ih fun _ => u.keeps_pure _
      · rw [if_neg on, if_neg on]
        exact ih pool

def hear (s : Subscriber) : Act Event Hearing Unit := fun w =>
  let reader := readers s.listener u.header.level
  if reader.misses platform.zone u then ⟨.panicked u.reason, w, u.source.callReports⟩
  else ⟨.returned (), w.note s.listener u.header.level (reader.gathered platform.zone u), []⟩

def attend : Party → Act Event Hearing Delivery
  | .transport ref =>
      Act.within Hearing.pool Hearing.setPool (Manager.toRef u.header.level (u.offer platform) ref)
  | .listener s => do
      u.hear platform readers s
      return .ok ()

def serve : Party → Act Event Hearing Delivery
  | .transport ref =>
      Act.within Hearing.pool Hearing.setPool
        (Manager.toRef u.header.level (Transport.served platform u.header u.contents) ref)
  | .listener s => do
      Act.modify (Hearing.note s.listener u.header.level
        ((readers s.listener u.header.level).gathered platform.zone u))
      return .ok ()

theorem listen_keeps (s : Subscriber) :
    u.Keeps (Hearing.listen platform.zone readers s.listener u.header.level)
      (u.hear platform readers s) :=
  fun w => u.follows_read _ _ _ _ w _
    (Reader.run_gives platform.zone u (readers s.listener u.header.level)) fun _ => .returned _ _ _

theorem notify_keeps (subscribers : List Subscriber) (d : Delivery) :
    u.Keeps
      (do
        notifyAll (Hearing.listen platform.zone readers) u.header.level subscribers
        return d)
      (do
        let others ← Party.each (u.attend platform readers) (subscribers.map .listener)
        return Delivery.first d others) := by
  induction subscribers with
  | nil =>
      simp only [notifyAll, List.map_nil, Party.each, pure_bind, Delivery.first_ok]
      exact u.keeps_pure d
  | cons s rest ih =>
      simp only [notifyAll, List.map_cons, Party.each, attend, bind_assoc, pure_bind]
      exact u.keeps_bind _ _ _ _ (u.listen_keeps platform readers s) fun _ => ih

theorem attend_transports (refs : List TransportRef) :
    Party.each (u.attend platform readers) (refs.map .transport) =
      Act.within Hearing.pool Hearing.setPool
        (Party.each (Manager.toRef u.header.level (u.offer platform)) refs) := by
  have read : ∀ pool w, Hearing.pool (Hearing.setPool pool w) = pool := fun _ _ => rfl
  have written : ∀ pool other w, Hearing.setPool other (Hearing.setPool pool w) =
      Hearing.setPool other w := fun _ _ _ => rfl
  have same : ∀ w, Hearing.setPool (Hearing.pool w) w = w := fun _ => rfl
  induction refs with
  | nil => exact (Act.within_pure _ _ same _).symm
  | cons ref rest ih =>
      rw [List.map_cons, Party.each, Party.each, Act.within_bind _ _ read written, ih]
      refine bind_congr fun one => ?_
      rw [Act.within_bind _ _ read written]
      exact bind_congr fun others => (Act.within_pure _ _ same _).symm

theorem deliver_keeps (m : Manager) :
    u.Keeps (Logger.deliver platform m : Act Event (Hearing × Record) Delivery)
      (Party.each (u.attend platform readers) (m.refs.map .transport)) := by
  rw [attend_transports]
  exact u.keeps_within Hearing.pool Hearing.setPool _ _ (u.dispatch_keeps platform m.refs)

end Unread

def Logger.listeners (l : Logger) (e : Engine) : List Subscriber :=
  (e.registries[l.registry]?.map Registry.subscribers).getD []

def Party.called (l : Logger) (level : Level) (f : Family) (e : Engine) : List Party :=
  if f.enabled then
    (if f.threshold.passes level then f.transports.refs else []).map .transport ++
      (l.listeners e).map .listener
  else []

namespace Unread

variable (u : Unread) (platform : Platform) (readers : Nat → Level → Reader)

structure IsOf (l : Logger) (level : Level) (source : Source) (f : Family) (e : Engine) : Prop where
  header : u.header = ⟨level, l.category, f.label, e.clock⟩
  ambient : u.ambient = Logger.ambient f e
  source : u.source = source

theorem transports_then_listeners (l : Logger) (w : Hearing) (refs : List TransportRef)
    (dispatch : Act Event (Hearing × Record) Delivery)
    (dispatched : u.Keeps dispatch (Party.each (u.attend platform readers) (refs.map .transport))) :
    u.Follows
      ((do
        let delivery ← dispatch
        Logger.notify (Hearing.listen platform.zone readers) l.registry u.header.level
        return delivery) (w, u.record))
      (Party.each (u.attend platform readers)
        (refs.map .transport ++ (l.listeners w.engine).map .listener) w) := by
  rw [Party.each_append]
  refine u.follows_bind _ _ _ _ w (dispatched w) ?_
  intro d v returned
  -- The subscribers are looked up after the deliveries, which leave the registries alone.
  have registries : l.listeners v.engine = l.listeners w.engine := by
    rw [attend_transports] at returned
    obtain ⟨events, ran⟩ := returned
    have state : _ = v := congrArg Ran.state ran
    rw [← state]
    rfl
  rw [← registries]
  exact u.notify_keeps platform readers _ d v

-- A call is what those do that it gives its record to, one after the other.
theorem log_attends (l : Logger) (level : Level) (source : Source) (f : Family) (w : Hearing)
    (known : l.family? w.engine = some f) (made : u.IsOf l level source f w.engine) :
    l.log (Hearing.listen w.engine.platform.zone readers) level source w =
      Party.preceded (.ok ())
        (if f.enabled then (Record.build u.header u.ambient source).2 else [])
        (Party.each (u.attend w.engine.platform readers) (Party.called l level f w.engine) w) := by
  obtain ⟨header, ambient, rfl⟩ := made
  have passed : u.header.level = level := congrArg Header.level header
  have built : Record.build ⟨level, l.category, f.label, (Host.engine w).clock⟩
      (Logger.ambient f (Host.engine w)) u.source =
      (u.record, (Record.build u.header u.ambient u.source).2) := by
    change Record.build ⟨level, l.category, f.label, w.engine.clock⟩
      (Logger.ambient f w.engine) u.source = _
    rw [← header, ← ambient]
    exact Prod.ext (Source.build_record u.header u.ambient u.source) rfl
  unfold Logger.log Party.called
  rw [Act.bind_quiet Act.get _ w w w rfl]
  change l.family? (Host.engine w) = some f at known
  simp only [known, built]
  by_cases on : f.enabled
  · rw [if_pos on, if_pos on, if_pos on, ← passed]
    refine (Act.bind_returned _ _ w w () _ rfl).trans ?_
    refine (Party.preceded_ok _ _).symm.trans (congrArg _ (u.with_local_at _ _ w ?_))
    by_cases passes : f.threshold.passes u.header.level
    · rw [if_pos passes, if_pos passes]
      exact u.transports_then_listeners _ readers l w _ _ (u.deliver_keeps _ readers f.transports)
    · rw [if_neg passes, if_neg passes]
      exact u.transports_then_listeners _ readers l w [] _ (u.keeps_pure _)
  · rw [if_neg on, if_neg on, if_neg on]
    rfl

end Unread

end StructuredLog
