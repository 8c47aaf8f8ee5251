import StructuredLog.Proofs.Record.Calm
import StructuredLog.Proofs.Transport.Dispatch

set_option autoImplicit false

namespace StructuredLog

structure Turn (π α : Type) where
  party : π
  result : α
  events : List Event

-- Parties that take their turns one after the other, each exactly once, and all of them return.
inductive Turns {π σ α : Type} (act : π → Act Event σ α) :
    List π → σ → List (Turn π α) → σ → Prop
  | nil (s : σ) : Turns act [] s [] s
  | cons (p : π) (rest : List π) (s t u : σ) (result : α) (events : List Event)
      (turns : List (Turn π α)) : act p s = ⟨.returned result, t, events⟩ →
      Turns act rest t turns u → Turns act (p :: rest) s (⟨p, result, events⟩ :: turns) u

namespace Turns

variable {π σ α : Type} (act : π → Act Event σ α)

theorem parties (ps : List π) (s t : σ) (turns : List (Turn π α)) (taken : Turns act ps s turns t) :
    turns.map Turn.party = ps := by
  induction taken with
  | nil s => rfl
  | cons p rest s t u result events turns ran later ih => rw [List.map_cons, ih]

theorem keeps (kept : σ → Prop) (good : Turn π α → Prop) (ps : List π) (s t : σ)
    (turns : List (Turn π α)) (taken : Turns act ps s turns t) (start : kept s)
    (each : ∀ p ∈ ps, ∀ s t result events, kept s → act p s = ⟨.returned result, t, events⟩ →
      kept t ∧ good ⟨p, result, events⟩) : kept t ∧ ∀ turn ∈ turns, good turn := by
  induction taken with
  | nil s => exact ⟨start, by simp⟩
  | cons p rest s t u result events turns ran later ih =>
      obtain ⟨next, first⟩ := each p (by simp) s t result events start ran
      obtain ⟨last, others⟩ := ih next fun q member => each q (by simp [member])
      refine ⟨last, ?_⟩
      intro turn member
      rcases List.mem_cons.mp member with rfl | inRest
      · exact first
      · exact others turn inRest

theorem all (kept : σ → Prop) (ps : List π) (s : σ) (start : kept s)
    (each : ∀ p ∈ ps, ∀ s, kept s → ∃ result t events,
      act p s = ⟨.returned result, t, events⟩ ∧ kept t) :
    ∃ turns t, Turns act ps s turns t ∧ kept t := by
  induction ps generalizing s with
  | nil => exact ⟨[], s, .nil s, start⟩
  | cons p rest ih =>
      obtain ⟨result, t, events, ran, next⟩ := each p (by simp) s start
      obtain ⟨turns, u, later, last⟩ := ih t next fun q member => each q (by simp [member])
      exact ⟨_, u, .cons p rest s t u result events turns ran later, last⟩

theorem nil_iff (s t : σ) (turns : List (Turn π α)) :
    Turns act [] s turns t ↔ turns = [] ∧ t = s := by
  constructor
  · intro taken
    cases taken
    exact ⟨rfl, rfl⟩
  · rintro ⟨rfl, rfl⟩
    exact .nil t

theorem cons_iff (p : π) (rest : List π) (s u : σ) (turns : List (Turn π α)) :
    Turns act (p :: rest) s turns u ↔ ∃ result t events later,
      act p s = ⟨.returned result, t, events⟩ ∧ Turns act rest t later u ∧
        turns = ⟨p, result, events⟩ :: later := by
  constructor
  · intro taken
    cases taken with
    | cons _ _ _ t _ result events later ran others =>
        exact ⟨result, t, events, later, ran, others, rfl⟩
  · rintro ⟨result, t, events, later, ran, others, rfl⟩
    exact .cons p rest s t u result events later ran others

end Turns

namespace Source

section Sending

variable (header : Header) (ambient : Properties) (source : Source)

theorem calm_part (part : LayoutPart) :
    source.CalmReading header ambient (Console.partSegments part) := by
  cases part with
  | levelUpper =>
      exact source.calm_then header ambient _ _ (source.calm_get header ambient)
        fun _ => source.calm_pure header ambient _
  | text =>
      exact source.calm_then header ambient _ _ (source.calm_text header ambient)
        fun _ => source.calm_pure header ambient _
  | category =>
      exact source.calm_then header ambient _ _ (source.calm_get header ambient)
        fun _ => source.calm_pure header ambient _
  | raw =>
      exact source.calm_then header ambient _ _ (source.calm_raw header ambient)
        fun _ => source.calm_pure header ambient _

theorem calm_parts (parts : List LayoutPart) :
    source.CalmReading header ambient (Console.allParts parts) := by
  induction parts with
  | nil => exact source.calm_pure header ambient _
  | cons part rest ih =>
      exact source.calm_then header ambient _ _ (source.calm_part header ambient part) fun _ =>
        source.calm_then header ambient _ _ ih fun _ => source.calm_pure header ambient _

theorem calm_line (zone : Time.Zone) (c : Console) :
    source.CalmReading header ambient (c.line zone) := by
  refine source.calm_then header ambient _ _ ?_ fun _ => source.calm_pure header ambient _
  unfold Console.segments
  cases c.layout with
  | custom parts => exact source.calm_parts header ambient parts
  | standard =>
      exact source.calm_then header ambient _ _ (source.calm_get header ambient) fun _ =>
        source.calm_then header ambient _ _ (source.calm_message header ambient)
          fun _ => source.calm_pure header ambient _

theorem write_quiet (refusal : Stream → Option IoFault) (id line : String) (device : Device) :
    (Console.write refusal id line device).2.2.filterMap Event.failure? = [] := by
  cases device with
  | stream stream =>
      rw [Console.write]
      cases refusal stream <;> rfl
  | writer failure lines pending =>
      cases failure with
      | none => rfl
      | some failure => cases failure <;> rfl

def Serving (t : Transport) (s : Transport × Record) : Prop :=
  s.1.face = t.face ∧ source.Own header ambient s.2

theorem calm_reading {α : Type} (m : Record.Reading α) (t : Transport) (s : Transport × Record)
    (calm : source.CalmReading header ambient m) (serving : source.Serving header ambient t s) :
    source.Calm (source.Serving header ambient t) (Transport.readRecord m s) :=
  source.calm_within _ _ Prod.snd _ m s (calm s.2 serving.2) fun _ own => ⟨serving.1, own⟩

theorem calm_store (sink : Sink) (t : Transport) (s : Transport × Record)
    (serving : source.Serving header ambient t s) :
    source.Calm (source.Serving header ambient t) (Transport.setSink sink s) :=
  source.calm_return _ () _ [] serving rfl

theorem forward_calm (traced : Level → Bool) :
    source.CalmReading header ambient (Transport.forward traced) := by
  refine source.calm_then header ambient _ _ (source.calm_get header ambient) fun r => ?_
  refine source.calm_then header ambient _ _ (source.calm_properties header ambient) fun _ => ?_
  cases traced r.header.level with
  | false => exact source.calm_pure header ambient _
  | true =>
      exact source.calm_then header ambient _ _ (source.calm_text header ambient) fun _ =>
        source.calm_pure header ambient _

theorem forward_quiet (traced : Level → Bool) (s u : Transport × Record)
    (diagnostic : Option Diagnostic)
    (read : Act.Returns (Transport.readRecord (Transport.forward traced)) s diagnostic u) :
    (diagnostic.map Event.diagnostic).toList.filterMap Event.failure? = [] := by
  obtain ⟨events, ran⟩ := read
  obtain ⟨r, ran, -⟩ := (Act.within_returned_iff _ _ _ _ _ _ _).mp ran
  obtain ⟨first, _, _, _, -, ran, -⟩ := (Act.bind_returned_iff _ _ _ _ _ _).mp ran
  obtain ⟨properties, _, _, _, -, ran, -⟩ := (Act.bind_returned_iff _ _ _ _ _ _).mp ran
  cases heard : traced first.header.level with
  | false =>
      rw [heard] at ran
      cases ran
      rfl
  | true =>
      rw [heard] at ran
      obtain ⟨text, _, _, _, -, ran, -⟩ := (Act.bind_returned_iff _ _ _ _ _ _).mp ran
      cases ran
      rfl

variable (platform : Platform)

theorem send_calm (t : Transport) (r : Record) (own : source.Own header ambient r) :
    source.Calm (source.Serving header ambient t) (Transport.send platform (t, r)) := by
  have start : source.Serving header ambient t (t, r) := ⟨rfl, own⟩
  have store (sink : Sink) (events : List Event) (result : Delivery) (s : Transport × Record)
      (serving : source.Serving header ambient t s)
      (quiet : events.filterMap Event.failure? = []) :
      source.Calm (source.Serving header ambient t) ((do
        Transport.setSink sink
        Act.emitAll events
        return result : Act Event (Transport × Record) Delivery) s) :=
    source.calm_bind _ _ _ s (source.calm_store header ambient sink t s serving) fun _ s _ serving =>
      source.calm_bind _ _ _ s (source.calm_return _ () s events serving quiet) fun _ s _ serving =>
        source.calm_return _ result s [] serving rfl
  unfold Transport.send
  rw [Act.bind_quiet Act.get _ (t, r) (t, r) (t, r) rfl]
  dsimp only
  cases t.sink with
  | memory capacity kept poisoned =>
      refine source.calm_bind _ _ _ _
        (source.calm_reading header ambient _ t _ (source.calm_snapshot header ambient) start) ?_
      intro snapshot s _ serving
      cases poisoned with
      | true => exact source.calm_return _ _ s [] serving rfl
      | false =>
          rw [Transport.store_pushed]
          refine source.calm_bind _ _ _ s (source.calm_store header ambient _ t s serving) ?_
          exact fun _ s _ serving => source.calm_return _ _ s [] serving rfl
  | console c =>
      refine source.calm_bind _ _ _ _ (source.calm_reading header ambient _ t _
        (source.calm_line header ambient platform.zone c) start) ?_
      intro line s _ serving
      exact store _ _ _ s serving (write_quiet platform.refusal t.id (line ++ "\n") c.device)
  | forwarding =>
      refine source.calm_bind _ _ _ _ (source.calm_reading header ambient _ t _
        (source.forward_calm header ambient platform.traced) start) ?_
      intro diagnostic s read serving
      refine source.calm_bind _ _ _ s (source.calm_return _ () s _ serving
        (forward_quiet platform.traced (t, r) s diagnostic read)) ?_
      exact fun _ s _ serving => source.calm_return _ _ s [] serving rfl
  | failing reason attempts =>
      refine source.calm_bind _ _ _ _ (source.calm_store header ambient _ t _ start) ?_
      exact fun _ s _ serving => source.calm_return _ _ s [] serving rfl

def Shared (pool : Pool) (s : Pool × Record) : Prop :=
  Manager.SameFlags pool s.1 ∧ source.Own header ambient s.2

theorem send_to_calm (slot : Nat) (pool : Pool) (r : Record) (own : source.Own header ambient r) :
    source.Calm (source.Shared header ambient pool) (Manager.sendTo platform slot (pool, r)) := by
  unfold Manager.sendTo
  dsimp only
  cases known : pool[slot]? with
  | none => exact source.calm_return _ _ (pool, r) [] ⟨fun _ => rfl, own⟩ rfl
  | some t =>
      obtain ⟨serving, quiet, returns⟩ := source.send_calm header ambient platform t r own
      dsimp only
      generalize Transport.send platform (t, r) = ran at serving quiet returns
      obtain ⟨outcome, ⟨served, left⟩, events⟩ := ran
      exact ⟨⟨Manager.same_flags_set pool slot t served known serving.1, serving.2⟩, quiet, returns⟩

end Sending

end Source

abbrev Sent := Turn TransportRef Delivery

namespace Sent

def error? (sent : Sent) : Option TransportError :=
  match sent.result with
  | .ok () => none
  | .error e => some e

def failure? (level : Level) (sent : Sent) : Option (String × Level × TransportError) :=
  sent.error?.map fun e => (sent.party.id, level, e)

def told (level : Level) (sent : Sent) : List Event :=
  sent.events ++ (sent.error?.map fun e =>
    Event.diagnostic (.deliveryFailed sent.party.id level e)).toList

def verdict (sends : List Sent) : Delivery :=
  match sends.findSome? error? with
  | none => .ok ()
  | some e => .error e

theorem verdict_cons (sent : Sent) (sends : List Sent) :
    verdict (sent :: sends) =
      match sent.result with
      | .ok () => verdict sends
      | .error e => .error e := by
  obtain ⟨party, result, events⟩ := sent
  cases result with
  | ok done => rfl
  | error e => rfl

theorem told_failures (level : Level) (sent : Sent)
    (quiet : sent.events.filterMap Event.failure? = []) :
    (sent.told level).filterMap Event.failure? = (sent.failure? level).toList := by
  unfold told failure?
  rw [List.filterMap_append, quiet]
  cases sent.error? <;> rfl

theorem all_told_failures (level : Level) (sends : List Sent)
    (quiet : ∀ sent ∈ sends, sent.events.filterMap Event.failure? = []) :
    (sends.flatMap (told level)).filterMap Event.failure? = sends.filterMap (failure? level) := by
  induction sends with
  | nil => rfl
  | cons sent sends ih =>
      have rest := ih fun other member => quiet other (by simp [member])
      rw [List.flatMap_cons, List.filterMap_append, rest,
        told_failures level sent (quiet sent (by simp))]
      cases failed : sent.failure? level with
      | none => rw [List.filterMap_cons_none failed]; rfl
      | some failure => rw [List.filterMap_cons_some failed]; rfl

end Sent

namespace Manager

theorem same_flags_enabled (pool next : Pool) (same : SameFlags pool next) (ref : TransportRef) :
    isEnabled next ref = isEnabled pool ref := by
  have flags := congrArg (Option.map Prod.snd) (same ref.slot)
  rw [Option.map_map, Option.map_map] at flags
  exact congrArg (Option.getD · false) flags

theorem send_to_others (platform : Platform) (slot : Nat) (s t : Pool × Record) (d : Delivery)
    (events : List Event) (sent : sendTo platform slot s = ⟨.returned d, t, events⟩)
    (other : Nat) (apart : other ≠ slot) :
    t.1[other]? = s.1[other]? := by
  unfold sendTo at sent
  cases known : s.1[slot]? with
  | none =>
      simp only [known] at sent
      cases sent
      rfl
  | some one =>
      simp only [known] at sent
      generalize Transport.send platform (one, s.2) = ran at sent
      obtain ⟨outcome, ⟨served, left⟩, reports⟩ := ran
      cases sent
      exact List.getElem?_set_ne (Ne.symm apart)

section Dispatch

variable (header : Header) (ambient : Properties) (source : Source) (platform : Platform)

theorem dispatch_off (ref : TransportRef) (rest : List TransportRef) (s : Pool × Record)
    (off : isEnabled s.1 ref = false) :
    dispatchAll platform (ref :: rest) s = dispatchAll platform rest s := by
  rw [dispatchAll, Act.bind_quiet Act.get _ s s s rfl]
  simp only [off, Bool.false_eq_true, if_false]

theorem dispatch_on_iff (ref : TransportRef) (rest : List TransportRef) (s u : Pool × Record)
    (d : Delivery) (events : List Event) (on : isEnabled s.1 ref = true) :
    dispatchAll platform (ref :: rest) s = ⟨.returned d, u, events⟩ ↔
      ∃ result t early later late, sendTo platform ref.slot s = ⟨.returned result, t, early⟩ ∧
        dispatchAll platform rest t = ⟨.returned later, u, late⟩ ∧
        d = (match result with | .ok () => later | .error e => .error e) ∧
        events = Sent.told s.2.header.level ⟨ref, result, early⟩ ++ late := by
  rw [dispatchAll, Act.bind_quiet Act.get _ s s s rfl]
  simp only [on, if_true]
  rw [Act.bind_returned_iff]
  constructor
  · rintro ⟨result, t, early, late, sent, later, rfl⟩
    cases result with
    | ok done => exact ⟨_, t, early, d, late, sent, later, rfl, by simp [Sent.told, Sent.error?]⟩
    | error e =>
        obtain ⟨more, rest, rfl⟩ := (Act.emit_all_returned_iff [_] _ t u d late).mp later
        obtain ⟨one, others, rfl⟩ := (Act.map_returned_iff _ _ t u d more).mp rest
        exact ⟨_, t, early, one, more, sent, others, rfl, by simp [Sent.told, Sent.error?]⟩
  · rintro ⟨result, t, early, later, late, sent, others, rfl, rfl⟩
    cases result with
    | ok done => exact ⟨_, t, early, late, sent, others, by simp [Sent.told, Sent.error?]⟩
    | error e =>
        refine ⟨_, t, early, _, sent, ?_, List.append_assoc _ _ _⟩
        exact (Act.emit_all_returned_iff [_] _ t u _ _).mpr
          ⟨late, (Act.map_returned_iff _ _ t u _ late).mpr ⟨later, others, rfl⟩, rfl⟩

-- One delivery to each transport that is enabled as the dispatch begins, in order.
theorem dispatch_returned_iff (refs : List TransportRef) (pool : Pool) (r : Record)
    (own : source.Own header ambient r) (s : Pool × Record) (d : Delivery) (events : List Event) :
    dispatchAll platform refs (pool, r) = ⟨.returned d, s, events⟩ ↔
      ∃ sends, Turns (fun ref => sendTo platform ref.slot) (refs.filter (isEnabled pool))
          (pool, r) sends s ∧
        d = Sent.verdict sends ∧ events = sends.flatMap (Sent.told header.level) := by
  induction refs generalizing pool r d events with
  | nil =>
      constructor
      · intro ran
        cases ran
        exact ⟨[], .nil _, rfl, rfl⟩
      · rintro ⟨sends, taken, rfl, rfl⟩
        obtain ⟨rfl, rfl⟩ := (Turns.nil_iff _ _ _ _).mp taken
        rfl
  | cons ref rest ih =>
      cases on : isEnabled pool ref with
      | false =>
          rw [dispatch_off platform ref rest (pool, r) on, List.filter_cons_of_neg (by simp [on])]
          exact ih pool r own d events
      | true =>
          have level : r.header.level = header.level :=
            congrArg Header.level (source.own_header header ambient r own)
          have kept (result : Delivery) (t : Pool × Record) (early : List Event)
              (sent : sendTo platform ref.slot (pool, r) = ⟨.returned result, t, early⟩) :
              source.Own header ambient t.2 ∧
                rest.filter (isEnabled t.1) = rest.filter (isEnabled pool) := by
            have shared := (source.send_to_calm header ambient platform ref.slot pool r own).kept
            rw [sent] at shared
            exact ⟨shared.2, List.filter_congr fun other _ =>
              same_flags_enabled pool t.1 shared.1 other⟩
          rw [dispatch_on_iff platform ref rest (pool, r) s d events on,
            List.filter_cons_of_pos (by simp [on])]
          dsimp only
          rw [level]
          constructor
          · rintro ⟨result, t, early, later, late, sent, others, rfl, rfl⟩
            obtain ⟨own', same⟩ := kept result t early sent
            obtain ⟨sends, taken, rfl, rfl⟩ := (ih t.1 t.2 own' later late).mp others
            rw [same] at taken
            exact ⟨⟨ref, result, early⟩ :: sends, .cons ref _ _ t s result early sends sent taken,
              (Sent.verdict_cons ⟨ref, result, early⟩ sends).symm, List.flatMap_cons.symm⟩
          · rintro ⟨sends, taken, rfl, rfl⟩
            obtain ⟨result, t, early, later, sent, others, rfl⟩ := (Turns.cons_iff _ _ _ _ _ _).mp taken
            obtain ⟨own', same⟩ := kept result t early sent
            rw [← same] at others
            exact ⟨result, t, early, _, _, sent, (ih t.1 t.2 own' _ _).mpr ⟨later, others, rfl, rfl⟩,
              Sent.verdict_cons ⟨ref, result, early⟩ later, List.flatMap_cons⟩

end Dispatch

end Manager

end StructuredLog
