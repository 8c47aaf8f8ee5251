import StructuredLog.Proofs.Record.ComputedOnce

set_option autoImplicit false

namespace StructuredLog

open Template

def Event.failure? : Event → Option (String × Level × TransportError)
  | .diagnostic (.deliveryFailed id level error) => some (id, level, error)
  | _ => none

namespace Source

structure Sound (source : Source) : Prop where
  tagged : source.untagged = false
  returning : source.panics = none

-- A calm run reports no failed delivery, and it returns unless the callback fails.
structure Calm {σ α : Type} (source : Source) (kept : σ → Prop) (ran : Ran Event σ α) : Prop where
  kept : kept ran.state
  quiet : ran.events.filterMap Event.failure? = []
  returns : source.Sound → ∃ a, ran.outcome = .returned a

section Calm

variable {σ τ α β : Type} (source : Source)

theorem calm_return (kept : σ → Prop) (a : α) (s : σ) (events : List Event) (start : kept s)
    (quiet : events.filterMap Event.failure? = []) :
    source.Calm kept ⟨.returned a, s, events⟩ :=
  ⟨start, quiet, fun _ => ⟨a, rfl⟩⟩

theorem calm_bind (kept : σ → Prop) (m : Act Event σ α) (f : α → Act Event σ β) (s : σ)
    (first : source.Calm kept (m s))
    (rest : ∀ a t, Act.Returns m s a t → kept t → source.Calm kept (f a t)) :
    source.Calm kept ((m >>= f) s) := by
  change source.Calm kept (Act.bind m f s)
  obtain ⟨next, quiet, returns⟩ := first
  unfold Act.bind
  generalize ended : m s = ran at next quiet returns
  obtain ⟨outcome, t, events⟩ := ran
  cases outcome with
  | panicked message => exact ⟨next, quiet, fun sound => nomatch returns sound⟩
  | returned a =>
      obtain ⟨last, quiet', returns'⟩ := rest a t ⟨events, ended⟩ next
      exact ⟨last, by rw [List.filterMap_append, quiet, quiet', List.append_nil], returns'⟩

theorem calm_within (kept : σ → Prop) (held : τ → Prop) (part : τ → σ) (put : σ → τ → τ)
    (m : Act Event σ α) (t : τ) (inner : source.Calm kept (m (part t)))
    (back : ∀ s, kept s → held (put s t)) : source.Calm held (Act.within part put m t) :=
  ⟨back _ inner.kept, inner.quiet, inner.returns⟩

end Calm

section Reading

variable (header : Header) (ambient : Properties) (source : Source)

def Own (r : Record) : Prop := ∃ stage, r = source.record header ambient stage

def CalmReading {α : Type} (m : Record.Reading α) : Prop :=
  ∀ r, source.Own header ambient r → source.Calm (source.Own header ambient) (m r)

theorem own_header (r : Record) (own : source.Own header ambient r) : r.header = header := by
  obtain ⟨stage, rfl⟩ := own
  exact record_header header ambient source stage

theorem render_quiet (template : String) (properties : Properties) :
    (render template properties).2.filterMap Event.failure? = [] := by
  rcases render_reports template properties with none | ⟨e, one⟩
  · rw [none]
    rfl
  · rw [one]
    rfl

theorem build_quiet : (Record.build header ambient source).2.filterMap Event.failure? = [] := by
  cases source with
  | text message explicit => exact render_quiet message (ambient.overlay explicit)
  | template parts => exact render_quiet parts.splice []
  | deferred message callback => rfl
  | lazily callback => rfl

theorem callback_quiet (callback : MessageCallback) :
    callback.events.filterMap Event.failure? = [] := by
  have formatting :
      (callback.calls.flatMap fun call => call.render.2).filterMap Event.failure? = [] := by
    rw [List.filterMap_flatMap, List.flatMap_eq_nil_iff]
    intro call _
    exact render_quiet call.splice []
  unfold MessageCallback.events
  rw [List.filterMap_append, formatting]
  rfl

theorem reported_quiet (stage : Stage) (need : Need) :
    (source.reported ambient stage need).filterMap Event.failure? = [] := by
  unfold reported
  by_cases needed : source.needs need = true
  · rw [if_pos needed]
    cases source with
    | text message explicit => rfl
    | template parts => rfl
    | deferred message callback =>
        have called : (if stage = .fresh then [Event.deferredCalled] else []).filterMap
            Event.failure? = [] := by
          split <;> rfl
        rw [List.filterMap_append, called, List.nil_append]
        cases callback with
        | panicked fault => rfl
        | returned explicit =>
            rw [printingReports]
            split
            · exact render_quiet message (ambient.overlay explicit)
            · rfl
    | lazily callback =>
        dsimp only
        split
        · exact callback_quiet callback
        · rfl
  · rw [if_neg needed]
    rfl

theorem sound_fault (sound : source.Sound) (stage : Stage) (need : Need) :
    source.fault stage need = none := by
  unfold fault
  rw [sound_refusal source sound.tagged sound.returning, ite_self]

theorem calm_read {α : Type} (m : Record.Reading α) (need : Need) (value : Stage → α)
    (read : ∀ stage, m (source.record header ambient stage) =
      ⟨.orPanic (source.fault stage need) (value stage),
        source.record header ambient (source.next stage need),
        source.reported ambient stage need⟩) : source.CalmReading header ambient m := by
  rintro r ⟨stage, rfl⟩
  rw [read]
  refine ⟨⟨_, rfl⟩, reported_quiet ambient source stage need, fun sound => ⟨value stage, ?_⟩⟩
  dsimp only
  rw [sound_fault source sound]
  rfl

theorem calm_pure {α : Type} (a : α) : source.CalmReading header ambient (pure a) :=
  fun r own => source.calm_return _ a r [] own rfl

theorem calm_get : source.CalmReading header ambient Act.get :=
  fun r own => source.calm_return _ r r [] own rfl

theorem calm_then {α β : Type} (m : Record.Reading α) (f : α → Record.Reading β)
    (first : source.CalmReading header ambient m)
    (rest : ∀ a, source.CalmReading header ambient (f a)) :
    source.CalmReading header ambient (m >>= f) :=
  fun r own => source.calm_bind _ m f r (first r own) fun a t _ => rest a t

theorem calm_message : source.CalmReading header ambient Record.readMessage :=
  source.calm_read header ambient _ _ _ (read_message_at header ambient source)

theorem calm_raw : source.CalmReading header ambient Record.readRaw :=
  source.calm_read header ambient _ _ _ (read_raw_at header ambient source)

theorem calm_properties : source.CalmReading header ambient Record.readProperties :=
  source.calm_read header ambient _ _ _ (read_properties_at header ambient source)

theorem calm_answer (zone : Time.Zone) (q : Question) :
    source.CalmReading header ambient (Record.ask zone q) :=
  source.calm_read header ambient _ _ _ (fun stage => ask_at header ambient source stage zone q)

theorem calm_text : source.CalmReading header ambient Record.readText :=
  source.calm_then header ambient _ _ (source.calm_message header ambient)
    fun _ => source.calm_pure header ambient _

theorem calm_snapshot : source.CalmReading header ambient Record.readSnapshot :=
  source.calm_then header ambient _ _ (source.calm_get header ambient) fun _ =>
    source.calm_then header ambient _ _ (source.calm_message header ambient) fun _ =>
      source.calm_then header ambient _ _ (source.calm_text header ambient) fun _ =>
        source.calm_then header ambient _ _ (source.calm_raw header ambient) fun _ =>
          source.calm_then header ambient _ _ (source.calm_properties header ambient) fun _ =>
            source.calm_pure header ambient _

end Reading

end Source

end StructuredLog
