import StructuredLog.Proofs.Logger.Containment
import StructuredLog.Proofs.Transport.Deliveries

set_option autoImplicit false

namespace StructuredLog

theorem Source.sound_iff (source : Source) : source.Sound ↔ source.failure = none := by
  unfold failure
  constructor
  · rintro ⟨tagged, returning⟩
    rw [returning, tagged]
    rfl
  · intro none
    cases returning : source.panics with
    | some message =>
        rw [returning] at none
        cases none
    | none =>
        cases tagged : source.untagged with
        | false => exact ⟨tagged, returning⟩
        | true =>
            rw [returning, tagged] at none
            cases none

theorem notify_all_returned_iff {σ : Type} (call : Nat → Level → Act Event σ Unit) (level : Level)
    (subscribers : List Subscriber) (s t : σ) (events : List Event) :
    notifyAll call level subscribers s = ⟨.returned (), t, events⟩ ↔
      ∃ calls, Turns (fun x : Subscriber => call x.listener level) subscribers s calls t ∧
        events = calls.flatMap Turn.events := by
  induction subscribers generalizing s events with
  | nil =>
      constructor
      · intro ran
        cases ran
        exact ⟨[], .nil _, rfl⟩
      · rintro ⟨calls, taken, rfl⟩
        obtain ⟨rfl, rfl⟩ := (Turns.nil_iff _ _ _ _).mp taken
        rfl
  | cons x rest ih =>
      rw [notifyAll, Act.bind_returned_iff]
      constructor
      · rintro ⟨done, u, early, late, first, others, rfl⟩
        obtain ⟨calls, taken, rfl⟩ := (ih u late).mp others
        exact ⟨_, .cons x rest s u t done early calls first taken, by rw [List.flatMap_cons]⟩
      · rintro ⟨calls, taken, rfl⟩
        obtain ⟨done, u, early, later, first, others, rfl⟩ := (Turns.cons_iff _ _ _ _ _ _).mp taken
        exact ⟨done, u, early, _, first, (ih u _).mpr ⟨later, others, rfl⟩, by rw [List.flatMap_cons]⟩

namespace Logger

def heading (l : Logger) (level : Level) (f : Family) (e : Engine) : Header :=
  ⟨level, l.category, f.label, e.clock⟩

def recorded (l : Logger) (level : Level) (source : Source) (f : Family) (e : Engine) :
    Record × List Event :=
  Record.build (l.heading level f e) (ambient f e) source

def Own (l : Logger) (level : Level) (source : Source) (f : Family) (e : Engine) (r : Record) :
    Prop :=
  source.Own (l.heading level f e) (ambient f e) r

-- The transports that the record goes to: those that are enabled as the call is made.
def receivers (level : Level) (f : Family) (e : Engine) : List TransportRef :=
  if f.threshold.passes level then f.transports.refs.filter (Manager.isEnabled e.transports) else []

section Host

variable {σ : Type} [Host σ]

def delivered (level : Level) (f : Family) (pool : Pool) (s : σ) : σ :=
  if f.threshold.passes level then
    Host.setEngine { Host.engine s with transports := pool } s
  else s

structure FanOut (call : Nat → Level → Act Event (σ × Record) Unit) (l : Logger) (level : Level)
    (source : Source) (f : Family) (s : σ) (sends : List Sent) (served : Pool × Record)
    (calls : List (Turn Subscriber Unit)) (after : σ × Record) : Prop where
  sent : Turns (fun ref => Manager.sendTo (Host.engine s).platform ref.slot)
    (receivers level f (Host.engine s))
    ((Host.engine s).transports, (l.recorded level source f (Host.engine s)).1) sends served
  notified : Turns (fun x => call x.listener level)
    (l.listeners (Host.engine (delivered level f served.1 s)))
    (delivered level f served.1 s, served.2) calls after
  parties : sends.map Turn.party = receivers level f (Host.engine s)
  listeners : calls.map Turn.party = l.listeners (Host.engine (delivered level f served.1 s))
  own : l.Own level source f (Host.engine s) served.2
  -- Whatever a transport or a callback reports, nothing but a failed delivery looks like one.
  failures : ((l.recorded level source f (Host.engine s)).2 ++
    sends.flatMap (Sent.told level)).filterMap Event.failure? =
      sends.filterMap (Sent.failure? level)
  spared : ∀ slot, slot ∉ (receivers level f (Host.engine s)).map TransportRef.slot →
    served.1[slot]? = (Host.engine s).transports[slot]?

def Heard (call : Nat → Level → Act Event (σ × Record) Unit) (l : Logger) (level : Level)
    (source : Source) (f : Family) (e : Engine) : Prop :=
  ∀ n s, l.Own level source f e s.2 →
    ∃ t events, call n level s = ⟨.returned (), t, events⟩ ∧ l.Own level source f e t.2

variable (header : Header) (properties : Properties) (source : Source)

theorem offer_returned_iff (level : Level) (f : Family) (s : σ) (r : Record)
    (own : source.Own header properties r) (passed : header.level = level) (t : σ × Record)
    (d : Delivery) (events : List Event) :
    (if f.threshold.passes level then deliver (Host.engine s).platform f.transports
      else pure (.ok ()) :
        Act Event (σ × Record) Delivery) (s, r) = ⟨.returned d, t, events⟩ ↔
      ∃ sends served, Turns (fun ref => Manager.sendTo (Host.engine s).platform ref.slot)
          (receivers level f (Host.engine s)) ((Host.engine s).transports, r) sends served ∧
        t = (delivered level f served.1 s, served.2) ∧
        d = Sent.verdict sends ∧ events = sends.flatMap (Sent.told level) := by
  unfold receivers delivered
  by_cases passes : f.threshold.passes level
  · simp only [passes, if_true]
    unfold deliver Manager.dispatch
    rw [Act.within_returned_iff]
    constructor
    · rintro ⟨served, ran, rfl⟩
      obtain ⟨sends, taken, rfl, rfl⟩ :=
        (Manager.dispatch_returned_iff header properties source _ _ _ r own served d events).mp ran
      rw [passed]
      exact ⟨sends, served, taken, rfl, rfl, rfl⟩
    · rintro ⟨sends, served, taken, rfl, rfl, rfl⟩
      rw [← passed]
      exact ⟨served,
        (Manager.dispatch_returned_iff header properties source _ _ _ r own served _ _).mpr
          ⟨sends, taken, rfl, rfl⟩, rfl⟩
  · rw [if_neg passes, if_neg passes]
    constructor
    · intro ran
      cases ran
      exact ⟨[], _, .nil _, by rw [if_neg passes], rfl, rfl⟩
    · rintro ⟨sends, served, taken, rfl, rfl, rfl⟩
      obtain ⟨rfl, rfl⟩ := (Turns.nil_iff _ _ _ _).mp taken
      rw [if_neg passes]
      rfl

end Host

section Log

variable {σ : Type} [Host σ] (call : Nat → Level → Act Event (σ × Record) Unit) (l : Logger)
  (level : Level) (source : Source) (f : Family) (s : σ)

theorem recorded_own (e : Engine) :
    l.Own level source f e (l.recorded level source f e).1 :=
  ⟨.fresh, source.build_record (l.heading level f e) (ambient f e)⟩

theorem sends_keep (sends : List Sent) (served : Pool × Record)
    (sent : Turns (fun ref => Manager.sendTo (Host.engine s).platform ref.slot)
      (receivers level f (Host.engine s))
      ((Host.engine s).transports, (l.recorded level source f (Host.engine s)).1) sends served) :
    l.Own level source f (Host.engine s) served.2 ∧
      ∀ one ∈ sends, one.events.filterMap Event.failure? = [] := by
  refine sent.keeps _ (fun p => l.Own level source f (Host.engine s) p.2) _ _ _ _ _
    (recorded_own l level source f (Host.engine s)) ?_
  intro ref _ p t result events own ran
  have calm := source.send_to_calm _ _ (Host.engine s).platform ref.slot p.1 p.2 own
  rw [ran] at calm
  exact ⟨calm.kept.2, calm.quiet⟩

theorem sends_spare (platform : Platform) (sends : List Sent) (start served : Pool × Record)
    (refs : List TransportRef)
    (sent : Turns (fun ref => Manager.sendTo platform ref.slot) refs start sends served)
    (slot : Nat) (outside : slot ∉ refs.map TransportRef.slot) : served.1[slot]? = start.1[slot]? := by
  refine (sent.keeps _ (fun p => p.1[slot]? = start.1[slot]?) (fun _ => True) _ _ _ _ rfl ?_).1
  intro ref member p t result events same ran
  have apart : slot ≠ ref.slot := fun here => outside (here ▸ List.mem_map_of_mem member)
  exact ⟨(Manager.send_to_others platform ref.slot p t result events ran slot apart).trans same,
    trivial⟩

theorem log_disabled (known : l.family? (Host.engine s) = some f) (off : f.enabled = false) :
    l.log call level source s = ⟨.returned (.ok ()), s, []⟩ := by
  unfold log
  rw [Act.bind_quiet Act.get _ s s s rfl]
  simp only [known, off, Bool.false_eq_true, if_false]
  rfl

theorem notify_returned_iff (registry : Nat) (s t : σ × Record) (events : List Event) :
    notify call registry level s = ⟨.returned (), t, events⟩ ↔
      ∃ calls, Turns (fun x : Subscriber => call x.listener level)
        (((Host.engine s.1).registries[registry]?.map Registry.subscribers).getD []) s calls t ∧
        events = calls.flatMap Turn.events := by
  unfold notify
  rw [Act.bind_quiet Act.get _ s s s rfl]
  exact notify_all_returned_iff call level _ s t events

theorem serving_returned_iff (header : Header) (properties : Properties) (r : Record)
    (own : source.Own header properties r) (passed : header.level = level) (delivery : Delivery)
    (t : σ × Record) (events : List Event) :
    (do
      let delivery ←
        if f.threshold.passes level then deliver (Host.engine s).platform f.transports
        else pure (.ok ())
      notify call l.registry level
      return delivery : Act Event (σ × Record) Delivery) (s, r) =
        ⟨.returned delivery, t, events⟩ ↔
      ∃ sends served calls,
        Turns (fun ref => Manager.sendTo (Host.engine s).platform ref.slot)
          (receivers level f (Host.engine s)) ((Host.engine s).transports, r) sends served ∧
        Turns (fun x : Subscriber => call x.listener level)
          (l.listeners (Host.engine (delivered level f served.1 s)))
          (delivered level f served.1 s, served.2) calls t ∧
        delivery = Sent.verdict sends ∧
        events = sends.flatMap (Sent.told level) ++ calls.flatMap Turn.events := by
  have folded : (do
      let delivery ←
        if f.threshold.passes level then deliver (Host.engine s).platform f.transports
        else pure (.ok ())
      notify call l.registry level
      return delivery : Act Event (σ × Record) Delivery) =
      (if f.threshold.passes level then deliver (Host.engine s).platform f.transports
        else pure (.ok ())) >>=
        fun delivery => notify call l.registry level >>= fun _ => pure delivery := by
    split <;> rfl
  rw [folded, Act.bind_returned_iff]
  constructor
  · rintro ⟨d, u, early, late, offered, rest, rfl⟩
    obtain ⟨sends, served, sent, rfl, rfl, rfl⟩ :=
      (offer_returned_iff header properties source level f s r own passed u d early).mp offered
    obtain ⟨done, heard, rfl⟩ := (Act.map_returned_iff _ _ _ _ _ _).mp rest
    obtain ⟨calls, notified, rfl⟩ := (notify_returned_iff call level _ _ _ _).mp heard
    exact ⟨sends, served, calls, sent, notified, rfl, rfl⟩
  · rintro ⟨sends, served, calls, sent, notified, rfl, rfl⟩
    refine ⟨_, _, _, _, (offer_returned_iff header properties source level f s r own passed _ _ _).mpr
      ⟨sends, served, sent, rfl, rfl, rfl⟩, ?_, rfl⟩
    exact (Act.map_returned_iff _ _ _ _ _ _).mpr
      ⟨(), (notify_returned_iff call level _ _ _ _).mpr ⟨calls, notified, rfl⟩, rfl⟩

theorem fan_out_of_turns (sends : List Sent) (served : Pool × Record)
    (calls : List (Turn Subscriber Unit)) (after : σ × Record)
    (sent : Turns (fun ref => Manager.sendTo (Host.engine s).platform ref.slot)
      (receivers level f (Host.engine s))
      ((Host.engine s).transports, (l.recorded level source f (Host.engine s)).1) sends served)
    (notified : Turns (fun x : Subscriber => call x.listener level)
      (l.listeners (Host.engine (delivered level f served.1 s)))
      (delivered level f served.1 s, served.2) calls after) :
    l.FanOut call level source f s sends served calls after := by
  obtain ⟨own, quiet⟩ := sends_keep l level source f s sends served sent
  constructor
  case sent => exact sent
  case notified => exact notified
  case parties => exact sent.parties
  case listeners => exact notified.parties
  case own => exact own
  case failures =>
    unfold recorded
    rw [List.filterMap_append, Source.build_quiet, List.nil_append,
      Sent.all_told_failures level sends quiet]
  case spared => exact sends_spare _ sends _ served _ sent

theorem log_returned_iff (known : l.family? (Host.engine s) = some f) (on : f.enabled = true)
    (delivery : Delivery) (t : σ) (events : List Event) :
    l.log call level source s = ⟨.returned delivery, t, events⟩ ↔
      ∃ sends served calls after, l.FanOut call level source f s sends served calls after ∧
        delivery = Sent.verdict sends ∧ t = after.1 ∧
        events = (l.recorded level source f (Host.engine s)).2 ++
          (sends.flatMap (Sent.told level) ++ calls.flatMap Turn.events) := by
  have own := recorded_own l level source f (Host.engine s)
  unfold log
  rw [Act.bind_quiet Act.get _ s s s rfl]
  simp only [known, on, if_true]
  rw [Act.emit_all_returned_iff]
  constructor
  · rintro ⟨more, ran, rfl⟩
    obtain ⟨left, ran⟩ := (Act.with_local_returned_iff _ _ _ _ _ _).mp ran
    obtain ⟨sends, served, calls, sent, notified, rfl, rfl⟩ :=
      (serving_returned_iff call l level source f s _ _ _ own rfl delivery _ more).mp ran
    exact ⟨sends, served, calls, _,
      fan_out_of_turns call l level source f s sends served calls _ sent notified, rfl, rfl, rfl⟩
  · rintro ⟨sends, served, calls, after, fan, rfl, rfl, rfl⟩
    refine ⟨_, (Act.with_local_returned_iff _ _ _ _ _ _).mpr ⟨after.2, ?_⟩, rfl⟩
    exact (serving_returned_iff call l level source f s _ _ _ own rfl _ _ _).mpr
      ⟨sends, served, calls, fan.sent, fan.notified, rfl, rfl⟩

theorem log_returns (known : l.family? (Host.engine s) = some f) (on : f.enabled = true)
    (sound : source.Sound) (heard : l.Heard call level source f (Host.engine s)) :
    ∃ delivery t events, l.log call level source s = ⟨.returned delivery, t, events⟩ := by
  obtain ⟨sends, served, sent, own⟩ := Turns.all
    (fun ref => Manager.sendTo (Host.engine s).platform ref.slot)
    (fun p => l.Own level source f (Host.engine s) p.2) (receivers level f (Host.engine s))
    ((Host.engine s).transports, (l.recorded level source f (Host.engine s)).1)
    (recorded_own l level source f (Host.engine s)) (by
      intro ref _ p own
      obtain ⟨kept, -, returns⟩ := source.send_to_calm _ _ _ ref.slot p.1 p.2 own
      obtain ⟨result, returned⟩ := returns sound
      exact ⟨result, _, _, by rw [← returned], kept.2⟩)
  obtain ⟨calls, after, notified, -⟩ := Turns.all (fun x : Subscriber => call x.listener level)
    (fun p => l.Own level source f (Host.engine s) p.2)
    (l.listeners (Host.engine (delivered level f served.1 s)))
    (delivered level f served.1 s, served.2) own (by
      intro x _ p own
      obtain ⟨t, events, ran, kept⟩ := heard x.listener p own
      exact ⟨(), t, events, ran, kept⟩)
  exact ⟨_, _, _, (log_returned_iff call l level source f s known on _ _ _).mpr
    ⟨sends, served, calls, after,
      fan_out_of_turns call l level source f s sends served calls after sent notified,
      rfl, rfl, rfl⟩⟩

-- Every enabled transport is given the record once and in order, whatever the others make of it;
-- then every subscriber is called, and the first failure is the result.
theorem log_fans_out (known : l.family? (Host.engine s) = some f) :
    (f.enabled = true →
      (∀ delivery t events, l.log call level source s = ⟨.returned delivery, t, events⟩ ↔
        ∃ sends served calls after, l.FanOut call level source f s sends served calls after ∧
          delivery = Sent.verdict sends ∧ t = after.1 ∧
          events = (l.recorded level source f (Host.engine s)).2 ++
            (sends.flatMap (Sent.told level) ++ calls.flatMap Turn.events)) ∧
      (source.failure = none → l.Heard call level source f (Host.engine s) →
        ∃ delivery t events, l.log call level source s = ⟨.returned delivery, t, events⟩)) ∧
    (f.enabled = false → l.log call level source s = ⟨.returned (.ok ()), s, []⟩) := by
  refine ⟨fun on => ⟨log_returned_iff call l level source f s known on, ?_⟩,
    log_disabled call l level source f s known⟩
  intro sound heard
  exact log_returns call l level source f s known on (source.sound_iff.mpr sound) heard

end Log

theorem listen_heard (zone : Time.Zone) (readers : Nat → Level → Reader) (l : Logger)
    (level : Level) (source : Source) (f : Family) (e : Engine) (sound : source.Sound) :
    l.Heard (Hearing.listen zone readers) level source f e := by
  intro n s own
  have reading (reader : Reader) :
      source.CalmReading (l.heading level f e) (ambient f e) (reader.run zone) := by
    induction reader with
    | done => exact source.calm_pure _ _ _
    | read q next ih =>
        exact source.calm_then _ _ _ _ (source.calm_answer _ _ zone q) fun answer =>
          source.calm_then _ _ _ _ (ih answer) fun _ => source.calm_pure _ _ _
  have calm : source.Calm (fun p : Hearing × Record => l.Own level source f e p.2)
      (Hearing.listen zone readers n level s) := by
    refine source.calm_bind _ _ _ s (source.calm_within _ _ _ _ _ s (reading _ s.2 own)
      fun r own => own) ?_
    exact fun answers p _ own => source.calm_return _ () _ [] own rfl
  obtain ⟨result, returned⟩ := calm.returns sound
  exact ⟨_, _, by rw [← returned], calm.kept⟩

end Logger

def Hearing.twoFailing : Hearing where
  engine :=
    { transports := [⟨"net", true, .failing "down" 0⟩, ⟨"spare", false, .failing "off" 0⟩,
        ⟨"disk", true, .failing "full" 0⟩]
      scopes := [.none]
      sources := [.counter ""]
      registries := [⟨[⟨"1", 0⟩, ⟨"2", 1⟩], 0⟩]
      families := [⟨"app", true, some .info, ⟨[⟨"net", 0⟩, ⟨"spare", 1⟩, ⟨"disk", 2⟩]⟩, 0, 0⟩,
        ⟨"off", false, some .info, ⟨[⟨"net", 0⟩]⟩, 0, 0⟩]
      clock := 0
      platform := .standard }
  heard := []

theorem log_fans_out_past_failures :
    let call := Hearing.listen Time.utc fun _ _ => .read .level fun _ => .done
    let l : Logger := ⟨[], 0, 0⟩
    let source : Source := .deferred "user \x7bid\x7d" (.returned [("id", .null)])
    let w := Hearing.twoFailing
    let f : Family := ⟨"app", true, some .info, ⟨[⟨"net", 0⟩, ⟨"spare", 1⟩, ⟨"disk", 2⟩]⟩, 0, 0⟩
    ∃ t events, l.log call .warn source w =
        ⟨.returned (.error (.rejected "net" "down")), t, events⟩ ∧
      events.filterMap Event.failure? = [("net", .warn, .rejected "net" "down"),
        ("disk", .warn, .rejected "disk" "full")] ∧
      t.heard = [(0, .warn, [.level .warn]), (1, .warn, [.level .warn])] ∧
      (∃ sends served calls after, l.FanOut call .warn source f w sends served calls after ∧
        .error (.rejected "net" "down") = Sent.verdict sends ∧ t = after.1) ∧
      (⟨[], 1, 0⟩ : Logger).log call .warn source w = ⟨.returned (.ok ()), w, []⟩ := by
  intro call l source w f
  have known : l.family? (Host.engine w) = some f := rfl
  have fans := (Logger.log_fans_out call l .warn source f w known).1 rfl
  have off := (Logger.log_fans_out call ⟨[], 1, 0⟩ .warn source
    ⟨"off", false, some .info, ⟨[⟨"net", 0⟩]⟩, 0, 0⟩ w rfl).2 rfl
  obtain ⟨delivery, t, events, ran⟩ := fans.2 rfl
    (Logger.listen_heard _ _ l .warn source f _ (source.sound_iff.mpr rfl))
  obtain ⟨sends, served, calls, after, fan, verdict, state, -⟩ := (fans.1 delivery t events).mp ran
  cases ran
  exact ⟨_, _, rfl, rfl, rfl, ⟨sends, served, calls, after, fan, verdict, state⟩, off⟩

end StructuredLog
