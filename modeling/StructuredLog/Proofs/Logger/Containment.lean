import StructuredLog.Proofs.Logger.Hearing
import StructuredLog.Proofs.Transport.Dispatch

set_option autoImplicit false

namespace StructuredLog

def Sink.isPoisoned : Sink → Bool
  | .memory _ _ poisoned => poisoned
  | _ => false

structure Transport.Bearing where
  id : String
  enabled : Bool
  reads : Bool → List Question
  poisoned : Bool

def Transport.bearing (t : Transport) : Bearing :=
  ⟨t.id, t.enabled, fun traced => t.sink.reads traced, t.sink.isPoisoned⟩

structure Engine.Intact (before after : Engine) : Prop where
  families : after.families = before.families
  registries : after.registries = before.registries
  scopes : after.scopes = before.scopes
  sources : after.sources = before.sources
  clock : after.clock = before.clock
  platform : after.platform = before.platform
  transports : ∀ slot : Nat,
    (after.transports[slot]?).map Transport.bearing =
      (before.transports[slot]?).map Transport.bearing

theorem Engine.intact_refl (e : Engine) : e.Intact e :=
  ⟨rfl, rfl, rfl, rfl, rfl, rfl, fun _ => rfl⟩

theorem Engine.intact_trans (a b c : Engine) (first : a.Intact b) (second : b.Intact c) :
    a.Intact c where
  families := second.families.trans first.families
  registries := second.registries.trans first.registries
  scopes := second.scopes.trans first.scopes
  sources := second.sources.trans first.sources
  clock := second.clock.trans first.clock
  platform := second.platform.trans first.platform
  transports slot := (second.transports slot).trans (first.transports slot)

namespace Manager

variable (level : Level) (m n : Act Event Transport Delivery) (ref : TransportRef) (pool : Pool)

theorem to_ref_off (off : isEnabled pool ref = false) :
    toRef level m ref pool = ⟨.returned (.ok ()), pool, []⟩ := by
  rw [toRef, Act.bind_quiet Act.get _ pool pool pool rfl, if_neg (ne_true_of_eq_false off)]
  rfl

theorem to_ref_panicked (t : Transport) (on : isEnabled pool ref = true)
    (known : pool[ref.slot]? = some t) (message : String) (events : List Event)
    (ran : m t = ⟨.panicked message, t, events⟩) :
    toRef level m ref pool = ⟨.panicked message, pool, events⟩ := by
  obtain ⟨bound, there⟩ := List.getElem?_eq_some_iff.mp known
  have same : pool.set ref.slot t = pool := by
    rw [← there]
    exact List.set_getElem_self bound
  have sent : atSlot m ref.slot pool = ⟨.panicked message, pool, events⟩ := by
    simp only [atSlot, known, ran, same]
  rw [toRef, Act.bind_quiet Act.get _ pool pool pool rfl, if_pos on]
  exact Act.bind_stopped _ _ _ _ _ _ sent

theorem to_ref_congr
    (same : ∀ t, pool[ref.slot]? = some t → isEnabled pool ref = true → m t = n t) :
    toRef level m ref pool = toRef level n ref pool := by
  cases on : isEnabled pool ref with
  | false => rw [to_ref_off level m ref pool on, to_ref_off level n ref pool on]
  | true =>
      have sent : atSlot m ref.slot pool = atSlot n ref.slot pool := by
        unfold atSlot
        cases known : pool[ref.slot]? with
        | none => rfl
        | some t => simp only [same t known on]
      unfold toRef
      rw [Act.bind_quiet Act.get _ pool pool pool rfl, Act.bind_quiet Act.get _ pool pool pool rfl,
        if_pos on, if_pos on]
      exact Act.bind_congr_at _ _ _ _ sent

structure Touched (slot : Nat) (pool next : Pool) : Prop where
  bearing : ∀ other : Nat,
    (next[other]?).map Transport.bearing = (pool[other]?).map Transport.bearing
  others : ∀ other, slot ≠ other → next[other]? = pool[other]?

theorem touched_refl (slot : Nat) : Touched slot pool pool := ⟨fun _ => rfl, fun _ _ => rfl⟩

theorem at_slot_returns (slot : Nat)
    (returns : ∀ t, ∃ d t', Act.Returns m t d t' ∧ t'.bearing = t.bearing) :
    ∃ d next, Act.Returns (atSlot m slot) pool d next ∧ Touched slot pool next := by
  cases known : pool[slot]? with
  | none =>
      exact ⟨.ok (), pool, ⟨[], by simp only [atSlot, known]⟩, touched_refl pool slot⟩
  | some t =>
      obtain ⟨d, t', ⟨events, ran⟩, same⟩ := returns t
      refine ⟨d, pool.set slot t', ⟨events, by simp only [atSlot, known, ran]⟩, ?_, ?_⟩
      · exact map_set Transport.bearing pool slot t t' known same
      · intro other apart
        exact List.getElem?_set_ne apart

theorem to_ref_returns
    (returns : ∀ t, ∃ d t', Act.Returns m t d t' ∧ t'.bearing = t.bearing) :
    ∃ d next, Act.Returns (toRef level m ref) pool d next ∧ Touched ref.slot pool next ∧
      (isEnabled pool ref = false → next = pool) := by
  cases on : isEnabled pool ref with
  | false =>
      exact ⟨.ok (), pool, ⟨[], to_ref_off level m ref pool on⟩, touched_refl pool ref.slot,
        fun _ => rfl⟩
  | true =>
      obtain ⟨d, next, sent, touched⟩ := at_slot_returns m pool ref.slot returns
      refine ⟨d, next, ?_, touched, nofun⟩
      refine Act.returns_bind _ _ _ _ _ _ _ (Act.returns_get pool) ?_
      rw [if_pos on]
      refine Act.returns_bind _ _ _ _ _ _ _ sent ?_
      cases d with
      | ok done => exact Act.returns_pure _ _
      | error e =>
          exact Act.returns_bind _ _ _ _ _ _ _ (Act.returns_emit _ _) (Act.returns_pure _ _)

end Manager

theorem Transport.served_returns (platform : Platform) (header : Header) (c : Contents)
    (t : Transport) :
    ∃ d t', Act.Returns (Transport.served platform header c) t d t' ∧ t'.bearing = t.bearing := by
  obtain ⟨id, enabled, sink⟩ := t
  cases sink with
  | memory capacity kept poisoned =>
      cases poisoned with
      | true => exact ⟨_, _, ⟨_, rfl⟩, rfl⟩
      | false => exact ⟨_, _, ⟨_, rfl⟩, rfl⟩
  | console out => exact ⟨_, _, ⟨_, rfl⟩, rfl⟩
  | forwarding => exact ⟨_, _, ⟨_, rfl⟩, rfl⟩
  | failing reason attempts => exact ⟨_, _, ⟨_, rfl⟩, rfl⟩

namespace Unread

variable (u : Unread) (platform : Platform) (readers : Nat → Level → Reader)

-- A disabled transport reads nothing.
def missing (w : Hearing) : Party → Bool
  | .transport ref => Manager.isEnabled w.pool ref && (w.pool[ref.slot]?).any (u.misses platform)
  | .listener s => (readers s.listener u.header.level).misses platform.zone u

theorem attend_missing (p : Party) (w : Hearing) (missing : u.missing platform readers w p = true) :
    u.attend platform readers p w = ⟨.panicked u.reason, w, u.source.callReports⟩ := by
  cases p with
  | transport ref =>
      obtain ⟨on, reads⟩ := Bool.and_eq_true_iff.mp missing
      cases known : w.pool[ref.slot]? with
      | none =>
          rw [known] at reads
          cases reads
      | some t =>
          rw [known] at reads
          have offered : u.offer platform t = ⟨.panicked u.reason, t, u.source.callReports⟩ :=
            if_pos reads
          have sent := Manager.to_ref_panicked u.header.level (u.offer platform) ref w.pool t on
            known _ _ offered
          exact Act.within_at Hearing.pool Hearing.setPool _ w _ _ _ sent
  | listener s =>
      have heard : u.hear platform readers s w = ⟨.panicked u.reason, w, u.source.callReports⟩ :=
        if_pos missing
      exact Act.bind_stopped _ _ _ _ _ _ heard

theorem attend_spared (p : Party) (w : Hearing) (spared : u.missing platform readers w p = false) :
    u.attend platform readers p w = u.serve platform readers p w := by
  cases p with
  | transport ref =>
      have sent := Manager.to_ref_congr u.header.level (u.offer platform)
        (Transport.served platform u.header u.contents) ref w.pool (by
          intro t known on
          have unread : u.misses platform t = false := by
            simpa [missing, on, known] using spared
          exact if_neg (ne_true_of_eq_false unread))
      exact Act.within_congr_at Hearing.pool Hearing.setPool _ _ w sent
  | listener s =>
      have heard : u.hear platform readers s w = Act.modify (Hearing.note s.listener u.header.level
          ((readers s.listener u.header.level).gathered platform.zone u)) w :=
        if_neg (ne_true_of_eq_false spared)
      exact Act.bind_congr_at _ _ _ _ heard

theorem is_enabled_intact (ref : TransportRef) (w v : Hearing) (intact : w.engine.Intact v.engine) :
    Manager.isEnabled v.pool ref = Manager.isEnabled w.pool ref := by
  have flags := congrArg (Option.map Transport.Bearing.enabled) (intact.transports ref.slot)
  rw [Option.map_map, Option.map_map] at flags
  exact congrArg (·.getD false) flags

theorem missing_intact (p : Party) (w v : Hearing) (intact : w.engine.Intact v.engine) :
    u.missing platform readers v p = u.missing platform readers w p := by
  cases p with
  | listener s => rfl
  | transport ref =>
      have reads := congrArg (Option.any fun bearing =>
        (bearing.reads (platform.traced u.header.level)).any u.source.asks)
        (intact.transports ref.slot)
      rw [Option.any_map, Option.any_map] at reads
      exact congrArg₂ (· && ·) (is_enabled_intact ref w v intact) reads

def notes : Party → List (Nat × Level × List Answer)
  | .transport _ => []
  | .listener s =>
      [(s.listener, u.header.level, (readers s.listener u.header.level).gathered platform.zone u)]

structure Served (parties : List Party) (w v : Hearing) : Prop where
  intact : w.engine.Intact v.engine
  heard : v.heard = w.heard ++ parties.flatMap (u.notes platform readers)
  untouched : ∀ slot, (∀ ref, Party.transport ref ∈ parties → Manager.isEnabled w.pool ref = true →
    ref.slot ≠ slot) → v.pool[slot]? = w.pool[slot]?

theorem served_append (first later : List Party) (w v x : Hearing)
    (begun : u.Served platform readers first w v) (ended : u.Served platform readers later v x) :
    u.Served platform readers (first ++ later) w x where
  intact := Engine.intact_trans _ _ _ begun.intact ended.intact
  heard := by rw [ended.heard, begun.heard, List.flatMap_append, List.append_assoc]
  untouched slot apart := by
    have early : v.pool[slot]? = w.pool[slot]? :=
      begun.untouched slot fun ref member on => apart ref (List.mem_append_left _ member) on
    rw [← early]
    refine ended.untouched slot fun ref member on => ?_
    rw [is_enabled_intact ref w v begun.intact] at on
    exact apart ref (List.mem_append_right _ member) on

theorem serve_returns (p : Party) (w : Hearing) :
    ∃ d v, Act.Returns (u.serve platform readers p) w d v ∧ u.Served platform readers [p] w v := by
  cases p with
  | listener s =>
      refine ⟨.ok (), _, ⟨_, rfl⟩, Engine.intact_refl w.engine, rfl, fun _ _ => rfl⟩
  | transport ref =>
      obtain ⟨d, next, sent, touched, off⟩ := Manager.to_ref_returns u.header.level
        (Transport.served platform u.header u.contents) ref w.pool
        (Transport.served_returns platform u.header u.contents)
      refine ⟨d, w.setPool next, ?_, ⟨rfl, rfl, rfl, rfl, rfl, rfl, touched.bearing⟩, ?_, ?_⟩
      · exact Act.returns_within Hearing.pool Hearing.setPool _ w next d sent
      · exact (List.append_nil _).symm
      · intro slot apart
        change next[slot]? = w.pool[slot]?
        cases on : Manager.isEnabled w.pool ref with
        | false => rw [off on]
        | true => exact touched.others slot (apart ref (List.mem_singleton.mpr rfl) on)

theorem each_serve_returns (parties : List Party) (w : Hearing) :
    ∃ d v, Act.Returns (Party.each (u.serve platform readers) parties) w d v ∧
      u.Served platform readers parties w v := by
  induction parties generalizing w with
  | nil =>
      exact ⟨.ok (), w, Act.returns_pure _ w, Engine.intact_refl w.engine,
        (List.append_nil _).symm, fun _ _ => rfl⟩
  | cons p rest ih =>
      obtain ⟨d, v, one, begun⟩ := u.serve_returns platform readers p w
      obtain ⟨d', x, others, ended⟩ := ih v
      refine ⟨Delivery.first d d', x, ?_,
        u.served_append platform readers [p] rest w v x begun ended⟩
      exact Act.returns_bind _ _ _ _ _ _ _ one
        (Act.returns_bind _ _ _ _ _ _ _ others (Act.returns_pure _ x))

theorem each_spared (parties : List Party) (w : Hearing)
    (spared : ∀ p ∈ parties, u.missing platform readers w p = false) :
    Party.each (u.attend platform readers) parties w =
      Party.each (u.serve platform readers) parties w := by
  induction parties generalizing w with
  | nil => rfl
  | cons p rest ih =>
      obtain ⟨first, later⟩ := List.forall_mem_cons.mp spared
      obtain ⟨d, v, ⟨events, served⟩, after⟩ := u.serve_returns platform readers p w
      have attended := (u.attend_spared platform readers p w first).trans served
      rw [Party.each_cons_returned _ p rest w v d events attended,
        Party.each_cons_returned _ p rest w v d events served, ih v]
      intro q member
      rw [u.missing_intact platform readers q w v after.intact]
      exact later q member

-- The induction goes through the states between the parties: what is missing to a party is the same
-- in all of them.
theorem each_stopped (before : List Party) (party : Party) (later : List Party) (w : Hearing)
    (spared : ∀ p ∈ before, u.missing platform readers w p = false)
    (missing : u.missing platform readers w party = true) :
    Party.each (u.attend platform readers) (before ++ party :: later) w =
      ⟨.panicked u.reason, (Party.each (u.serve platform readers) before w).state,
        (Party.each (u.serve platform readers) before w).events ++ u.source.callReports⟩ := by
  induction before generalizing w with
  | nil => exact Act.bind_stopped _ _ _ _ _ _ (u.attend_missing platform readers party w missing)
  | cons p rest ih =>
      obtain ⟨first, others⟩ := List.forall_mem_cons.mp spared
      obtain ⟨d, v, ⟨events, served⟩, after⟩ := u.serve_returns platform readers p w
      have attended := (u.attend_spared platform readers p w first).trans served
      have stopped := ih v (by
        intro q member
        rw [u.missing_intact platform readers q w v after.intact]
        exact others q member) (by rwa [u.missing_intact platform readers party w v after.intact])
      rw [List.cons_append, Party.each_cons_returned _ p _ w v d events attended, stopped,
        Party.each_cons_returned _ p rest w v d events served]
      simp only [Party.preceded, List.append_assoc]

theorem served_kept (parties : List Party) (w v : Hearing)
    (after : u.Served platform readers parties w v)
    (spared : ∀ p ∈ parties, u.missing platform readers w p = false) (slot : Nat) (t : Transport)
    (known : w.pool[slot]? = some t) (reads : u.misses platform t = true) :
    v.pool[slot]? = some t := by
  refine (after.untouched slot ?_).trans known
  intro ref member on here
  have unread := spared (.transport ref) member
  subst here
  simp [missing, on, known, reads] at unread

structure Stopped (before : List Party) (w : Hearing) (call : Act Event Hearing Delivery) :
    Prop where
  outcome : (call w).outcome = .panicked u.reason
  state : (call w).state = (Party.each (u.serve platform readers) before w).state
  events : (call w).events =
    (Party.each (u.serve platform readers) before w).events ++ u.source.callReports
  served : u.Served platform readers before w (call w).state
  -- The next call finds what the finished deliveries left, and nothing of the panic.
  later : ∀ (l : Logger) (level : Level) (source : Source), ∃ reports,
    let next := l.log (Hearing.listen platform.zone readers) level source
    let panicked := (Act.attempt call >>= fun _ => next) w
    let finished := (Party.each (u.serve platform readers) before >>= fun _ => next) w
    panicked.outcome = finished.outcome ∧ panicked.state = finished.state ∧
      finished.events = (Party.each (u.serve platform readers) before w).events ++ reports ∧
      panicked.events = (call w).events ++ reports

theorem stopped_of_eq (before : List Party) (w : Hearing) (call : Act Event Hearing Delivery)
    (ran : call w = ⟨.panicked u.reason, (Party.each (u.serve platform readers) before w).state,
      (Party.each (u.serve platform readers) before w).events ++ u.source.callReports⟩) :
    u.Stopped platform readers before w call := by
  obtain ⟨d, v, ⟨events, served⟩, after⟩ := u.each_serve_returns platform readers before w
  rw [served] at ran
  constructor
  case outcome => rw [ran]
  case state => rw [ran, served]
  case events => rw [ran, served]
  case served =>
    rw [ran]
    exact after
  case later =>
    intro l level source
    let next := l.log (Hearing.listen platform.zone readers) level source
    have tried : Act.attempt call w =
        ⟨.returned (.panicked u.reason), v, events ++ u.source.callReports⟩ := by
      unfold Act.attempt
      rw [ran]
    have panicked := Act.bind_returned _ (fun _ => next) _ _ _ _ tried
    have finished := Act.bind_returned _ (fun _ => next) _ _ _ _ served
    refine ⟨(next v).events, ?_⟩
    change (Act.bind _ _ w).outcome = (Act.bind _ _ w).outcome ∧
      (Act.bind _ _ w).state = (Act.bind _ _ w).state ∧ (Act.bind _ _ w).events = _ ∧
      (Act.bind _ _ w).events = _
    rw [panicked, finished, served, ran]
    exact ⟨rfl, rfl, rfl, rfl⟩

structure Ended (parties : List Party) (w : Hearing) (call : Act Event Hearing Delivery) :
    Prop where
  stopped : (∃ p ∈ parties, u.missing platform readers w p = true) → ∃ before party later,
    parties = before ++ party :: later ∧ (∀ p ∈ before, u.missing platform readers w p = false) ∧
      u.missing platform readers w party = true ∧ u.Stopped platform readers before w call
  spared : (∀ p ∈ parties, u.missing platform readers w p = false) →
    call w = Party.each (u.serve platform readers) parties w ∧
      ∃ d, (call w).outcome = .returned d
  intact : w.engine.Intact (call w).state.engine
  kept : ∀ (slot : Nat) (t : Transport), w.pool[slot]? = some t → u.misses platform t = true →
    (call w).state.pool[slot]? = some t

-- A memory reads what is missing, so its buffer is as it was and takes the next record.
structure Contained (parties : List Party) (w : Hearing) (call : Act Event Hearing Delivery) :
    Prop extends u.Ended platform readers parties w call where
  memories : ∀ (slot : Nat) (t : Transport) (capacity : Option Nat) (kept : List Snapshot)
    (poisoned : Bool), w.pool[slot]? = some t → t.sink = .memory capacity kept poisoned →
      (call w).state.pool[slot]? = some t
  usable : ∀ (slot : Nat) (id : String) (enabled : Bool) (capacity : Option Nat)
    (kept : List Snapshot), w.pool[slot]? = some ⟨id, enabled, .memory capacity kept false⟩ →
      ∀ (next after : Record) (snapshot : Snapshot),
        Act.Returns Record.readSnapshot next snapshot after →
          Act.Returns (Manager.sendTo platform slot) ((call w).state.pool, next) (.ok ())
            ((call w).state.pool.set slot
              ⟨id, enabled, .memory capacity (Memory.push capacity kept snapshot) false⟩, after)

theorem ended (parties : List Party) (w : Hearing) (call : Act Event Hearing Delivery)
    (ran : call w = Party.each (u.attend platform readers) parties w) :
    u.Ended platform readers parties w call := by
  cases found : parties.find? (u.missing platform readers w) with
  | none =>
      have spared : ∀ p ∈ parties, u.missing platform readers w p = false := fun p member =>
        eq_false_of_ne_true (List.find?_eq_none.mp found p member)
      have served := ran.trans (u.each_spared platform readers parties w spared)
      obtain ⟨d, v, ⟨events, returned⟩, after⟩ := u.each_serve_returns platform readers parties w
      have ended := served.trans returned
      constructor
      case stopped =>
        rintro ⟨p, member, missing⟩
        rw [spared p member] at missing
        cases missing
      case spared => exact fun _ => ⟨served, d, congrArg Ran.outcome ended⟩
      case intact =>
        rw [ended]
        exact after.intact
      case kept =>
        rw [ended]
        exact u.served_kept platform readers parties w v after spared
  | some party =>
      obtain ⟨missing, before, later, split, earlier⟩ := List.find?_eq_some_iff_append.mp found
      have spared : ∀ p ∈ before, u.missing platform readers w p = false := fun p member => by
        simpa using earlier p member
      have stopped := u.stopped_of_eq platform readers before w call (by
        rw [ran, split]
        exact u.each_stopped platform readers before party later w spared missing)
      constructor
      case stopped => exact fun _ => ⟨before, party, later, split, spared, missing, stopped⟩
      case spared =>
        intro all
        have member : party ∈ parties := split ▸ List.mem_append_right _ List.mem_cons_self
        rw [all party member] at missing
        cases missing
      case intact => exact stopped.served.intact
      case kept => exact u.served_kept platform readers before w _ stopped.served spared

theorem memory_misses (asked : u.source.asks .snapshot = true) (t : Transport)
    (capacity : Option Nat) (kept : List Snapshot) (poisoned : Bool)
    (memory : t.sink = .memory capacity kept poisoned) :
    u.misses platform t = true := by
  unfold misses
  rw [memory]
  exact Bool.or_eq_true_iff.mpr (.inl asked)

theorem contained (parties : List Party) (w : Hearing) (call : Act Event Hearing Delivery)
    (ran : call w = Party.each (u.attend platform readers) parties w)
    (asked : u.source.asks .snapshot = true) : u.Contained platform readers parties w call := by
  have ended := u.ended platform readers parties w call ran
  have memories : ∀ (slot : Nat) (t : Transport) (capacity : Option Nat) (kept : List Snapshot)
      (poisoned : Bool), w.pool[slot]? = some t → t.sink = .memory capacity kept poisoned →
        (call w).state.pool[slot]? = some t := fun slot t capacity kept poisoned known memory =>
    ended.kept slot t known (u.memory_misses platform asked t capacity kept poisoned memory)
  refine ⟨ended, memories, ?_⟩
  intro slot id enabled capacity kept known next after snapshot read
  exact Manager.send_to_memory platform slot _ id enabled capacity kept next after snapshot read
    (memories slot _ capacity kept false known rfl)

end Unread

-- How a callback of the caller fails: with its own panic, or because it formats nothing.
def Source.failure (source : Source) : Option String :=
  source.panics.or (if source.untagged then some Record.neverTagged else none)

theorem Source.failing_lacks (source : Source) (reason : String)
    (failing : source.failure = some reason) : source.refusal .fresh = some reason := by
  unfold failure at failing
  cases panics : source.panics with
  | some message =>
      rw [panics] at failing
      exact (panicking_refusal source message panics .fresh).trans failing
  | none =>
      rw [panics] at failing
      cases untagged : source.untagged with
      | false =>
          rw [untagged] at failing
          cases failing
      | true =>
          rw [untagged] at failing
          exact (untagged_refusal source untagged panics .fresh).trans failing

def Unread.ofCall (l : Logger) (level : Level) (source : Source) (f : Family) (e : Engine)
    (reason : String) (failing : source.failure = some reason) : Unread where
  header := ⟨level, l.category, f.label, e.clock⟩
  ambient := Logger.ambient f e
  source := source
  reason := reason
  lacking _ _ := source.failing_lacks reason failing

theorem Source.failing_asks (source : Source) (reason : String)
    (failing : source.failure = some reason) (header : Header) (ambient : Properties) :
    source.asks .snapshot = true ∧ (Record.build header ambient source).2 = [] := by
  cases source with
  | text message explicit => cases failing
  | template parts => cases failing
  | deferred message callback => exact ⟨rfl, rfl⟩
  | lazily callback => exact ⟨rfl, rfl⟩

-- The engine goes on from the deliveries that were finished before.
theorem panicking_call_is_contained (readers : Nat → Level → Reader) (l : Logger) (level : Level)
    (source : Source) (f : Family) (w : Hearing) (reason : String)
    (known : l.family? w.engine = some f) (failing : source.failure = some reason) :
    (Unread.ofCall l level source f w.engine reason failing).Contained w.engine.platform readers
      (Party.called l level f w.engine) w
      (l.log (Hearing.listen w.engine.platform.zone readers) level source) := by
  let u := Unread.ofCall l level source f w.engine reason failing
  obtain ⟨asked, silent⟩ := source.failing_asks reason failing u.header u.ambient
  refine u.contained _ readers _ w _ ?_ asked
  have attended := u.log_attends readers l level source f w known ⟨rfl, rfl, rfl⟩
  rw [silent, ite_self, Party.preceded_ok] at attended
  exact attended

-- Nobody listens to what is forwarded, so forwarding reads no text.
def Hearing.oneLogger : Hearing where
  engine :=
    { transports := [⟨"net", true, .failing "down" 0⟩, ⟨"trace", true, .forwarding⟩,
        ⟨"memory", true, .memory (some 2) [] false⟩]
      scopes := [.none]
      sources := [.counter ""]
      registries := [⟨[⟨"1", 0⟩], 0⟩]
      families := [⟨"app", true, some .info, ⟨[⟨"net", 0⟩, ⟨"trace", 1⟩, ⟨"memory", 2⟩]⟩, 0, 0⟩]
      clock := 0
      platform := ⟨Time.utc, fun _ => false, fun _ => none⟩ }
  heard := []

theorem panicking_call_is_contained_in_memory :
    let readers : Nat → Level → Reader := fun _ _ => .read .text fun _ => .done
    let l : Logger := ⟨[], 0, 0⟩
    let f : Family := ⟨"app", true, some .info, ⟨[⟨"net", 0⟩, ⟨"trace", 1⟩, ⟨"memory", 2⟩]⟩, 0, 0⟩
    let source : Source := .lazily ⟨[], .pieces []⟩
    let w := Hearing.oneLogger
    l.family? w.engine = some f ∧
      ∃ failing : source.failure = some Record.neverTagged,
        (Unread.ofCall l .warn source f w.engine Record.neverTagged failing).Contained
          w.engine.platform readers (Party.called l .warn f w.engine) w
          (l.log (Hearing.listen Time.utc readers) .warn source) :=
  ⟨rfl, rfl, panicking_call_is_contained _ _ _ _ _ _ _ rfl rfl⟩

example : ((⟨[], 0, 0⟩ : Logger).log
    (Hearing.listen Time.utc fun _ _ => .read .text fun _ => .done) .warn (.lazily ⟨[], .pieces []⟩)
    Hearing.oneLogger).state.pool =
      [⟨"net", true, .failing "down" 1⟩, ⟨"trace", true, .forwarding⟩,
        ⟨"memory", true, .memory (some 2) [] false⟩] := rfl

end StructuredLog
