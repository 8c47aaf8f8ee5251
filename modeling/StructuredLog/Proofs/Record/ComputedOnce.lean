import Mathlib.Data.List.Induction
import StructuredLog.Proofs.Record.Reads

set_option autoImplicit false

namespace StructuredLog

open Template

def Event.isCall : Event → Bool
  | .deferredCalled => true
  | .lazyCalled .. => true
  | _ => false

def Event.isWarning : Event → Bool
  | .diagnostic (.parseFailed _) => true
  | _ => false

namespace Source

def asks (source : Source) (q : Question) : Bool := source.needs q.need

def call : Source → List Event
  | .text .. | .template _ => []
  | .deferred .. => [.deferredCalled]
  | .lazily callback => [.lazyCalled false !callback.calls.isEmpty]

def panics : Source → Option String
  | .deferred _ (.panicked message) => some message
  | .lazily ⟨_, .panics message⟩ => some message
  | _ => none

def isLazy : Source → Bool
  | .lazily _ => true
  | _ => false

def untagged : Source → Bool
  | .lazily callback => callback.calls.isEmpty
  | _ => false

end Source

namespace Record

-- Reads one after the other; a panic ends only the read that it happens in.
def readAll (zone : Time.Zone) : List Question → Reading (List (Outcome Answer))
  | [] => pure []
  | q :: rest => do
      let answer ← Act.attempt (ask zone q)
      let answers ← readAll zone rest
      return answer :: answers

def after (zone : Time.Zone) (reads : List Question) (r : Record) : Record :=
  (readAll zone reads r).state

def answer (zone : Time.Zone) (before : List Question) (q : Question) (r : Record) :
    Outcome Answer := (ask zone q (r.after zone before)).outcome

def happens (zone : Time.Zone) (before : List Question) (q : Question) (r : Record) :
    List Event := (ask zone q (r.after zone before)).events

-- `before`, `others` and `more` are any reads at all, those that panic among them.
structure ComputedOnce (zone : Time.Zone) (source : Source) (built : Record × List Event) :
    Prop where
  notBuilding : built.2.filter Event.isCall = []
  firstNeed : ∀ before q, (built.1.happens zone before q).filter Event.isCall =
    if source.asks q && !before.any source.asks then source.call else []
  once : ∀ reads, (readAll zone reads built.1).events.filter Event.isCall =
    if reads.any source.asks then source.call else []
  -- No read changes what another one gives, but that a record may become resolved.
  same : ∀ before others q a b, q ≠ .resolved → built.1.answer zone before q = .returned a →
    built.1.answer zone others q = .returned b → a = b
  resolving : ∀ before, ∃ flag, built.1.answer zone before .resolved = .returned (.flag flag) ∧
    (flag = true → ∀ more, built.1.answer zone (before ++ more) .resolved = .returned (.flag true))
  warned : source.isLazy = false → ∀ reads,
    (built.2 ++ (readAll zone reads built.1).events).countP Event.isWarning ≤ 1
  -- The panic of a callback ends the first read that needs it; later ones find nothing to run.
  failing : ∀ message, source.panics = some message → ∀ before q, source.asks q = true →
    built.1.answer zone before q =
      .panicked (if before.any source.asks then unavailable else message)
  tagless : source.untagged = true → source.panics = none → ∀ before q, source.asks q = true →
    built.1.answer zone before q = .panicked neverTagged
  answering : ∀ before q,
    source.asks q = false ∨ (source.untagged = false ∧ source.panics = none) →
      ∃ a, built.1.answer zone before q = .returned a

theorem read_all_cons (zone : Time.Zone) (q : Question) (rest : List Question) (r : Record) :
    (readAll zone (q :: rest) r).state = (readAll zone rest (ask zone q r).state).state ∧
      (readAll zone (q :: rest) r).events =
        (ask zone q r).events ++ (readAll zone rest (ask zone q r).state).events := by
  have tried : Act.attempt (ask zone q) r =
      ⟨.returned (ask zone q r).outcome, (ask zone q r).state, (ask zone q r).events⟩ := rfl
  have whole : readAll zone (q :: rest) r = Act.bind (Act.attempt (ask zone q))
      (fun answer => Act.bind (readAll zone rest) fun answers => Act.pure (answer :: answers)) r := rfl
  rw [whole, Act.bind_returned _ _ _ _ _ _ tried]
  unfold Act.bind
  generalize readAll zone rest (ask zone q r).state = ran
  obtain ⟨outcome, state, events⟩ := ran
  cases outcome <;> simp [Act.pure]

theorem read_all_append (zone : Time.Zone) (first later : List Question) (r : Record) :
    (readAll zone (first ++ later) r).state = (readAll zone later (r.after zone first)).state ∧
      (readAll zone (first ++ later) r).events =
        (readAll zone first r).events ++ (readAll zone later (r.after zone first)).events := by
  induction first generalizing r with
  | nil => exact ⟨rfl, rfl⟩
  | cons q first ih =>
      obtain ⟨state, events⟩ := read_all_cons zone q first r
      obtain ⟨state', events'⟩ := read_all_cons zone q (first ++ later) r
      obtain ⟨same, joined⟩ := ih (ask zone q r).state
      unfold after at same joined ⊢
      rw [List.cons_append, state', events', state, events, same, joined, List.append_assoc]
      exact ⟨rfl, rfl⟩

theorem read_all_concat (zone : Time.Zone) (reads : List Question) (q : Question) (r : Record) :
    (readAll zone (reads ++ [q]) r).events =
      (readAll zone reads r).events ++ r.happens zone reads q := by
  rw [(read_all_append zone reads [q] r).2, (read_all_cons zone q [] (r.after zone reads)).2]
  exact congrArg _ (List.append_nil _)

-- What the first read of a kind brings, and no other read, a whole run brings once.
theorem once_in_all (zone : Time.Zone) (p : Event → Bool) (kind : Question → Bool)
    (brought : List Event) (r : Record)
    (each : ∀ before q, (r.happens zone before q).filter p =
      if kind q && !before.any kind then brought else []) (reads : List Question) :
    (readAll zone reads r).events.filter p = if reads.any kind then brought else [] := by
  induction reads using List.reverseRecOn with
  | nil => rfl
  | append_singleton reads q ih =>
      rw [read_all_concat, List.filter_append, ih, each, List.any_append]
      cases reads.any kind <;> simp

end Record

namespace Source

open Record

variable (zone : Time.Zone) (header : Header) (ambient : Properties) (source : Source)

def stageAfter (stage : Stage) (reads : List Question) : Stage :=
  reads.foldl (fun stage q => source.next stage q.need) stage

theorem build_record : (build header ambient source).1 = source.record header ambient .fresh := by
  cases source <;> rfl

theorem stage_after_append (stage : Stage) (first later : List Question) :
    source.stageAfter stage (first ++ later) =
      source.stageAfter (source.stageAfter stage first) later :=
  List.foldl_append ..

theorem after_at (stage : Stage) (reads : List Question) :
    (source.record header ambient stage).after zone reads =
      source.record header ambient (source.stageAfter stage reads) := by
  induction reads generalizing stage with
  | nil => rfl
  | cons q reads ih =>
      unfold Record.after at ih ⊢
      rw [(read_all_cons zone q reads _).1, ask_at, ih]
      rfl

theorem next_fresh_iff (stage : Stage) (need : Need) :
    source.next stage need = .fresh ↔ stage = .fresh ∧ source.needs need = false := by
  unfold next
  by_cases needed : source.needs need = true
  · rw [if_pos needed, needed]
    split <;> simp
  · rw [if_neg needed]
    simp [needed]

theorem next_printed_iff (stage : Stage) (need : Need) :
    source.next stage need = .printed ↔
      stage = .printed ∨ (source.needs need = true ∧ need = .pieces) := by
  unfold next
  by_cases needed : source.needs need = true
  · rw [if_pos needed]
    by_cases printed : need = .pieces ∨ stage = .printed
    · rw [if_pos printed]
      rcases printed with rfl | rfl
      · simp [needed]
      · simp
    · rw [if_neg printed]
      obtain ⟨other, unprinted⟩ := not_or.mp printed
      simp [other, unprinted]
  · rw [if_neg needed]
    simp [needed]

def prints (q : Question) : Bool := source.asks q && q.need == .pieces

theorem stage_fresh_iff (stage : Stage) (reads : List Question) :
    source.stageAfter stage reads = .fresh ↔ stage = .fresh ∧ reads.any source.asks = false := by
  induction reads generalizing stage with
  | nil => simp [stageAfter]
  | cons q reads ih =>
      have rest := ih (source.next stage q.need)
      rw [next_fresh_iff, and_assoc] at rest
      simpa [stageAfter, asks] using rest

theorem stage_printed_iff (stage : Stage) (reads : List Question) :
    source.stageAfter stage reads = .printed ↔
      stage = .printed ∨ reads.any source.prints = true := by
  induction reads generalizing stage with
  | nil => simp [stageAfter]
  | cons q reads ih =>
      have rest := ih (source.next stage q.need)
      rw [next_printed_iff, or_assoc] at rest
      simpa [stageAfter, prints, asks] using rest

theorem answer_at (before : List Question) (q : Question) :
    (build header ambient source).1.answer zone before q =
      .orPanic (source.fault (source.stageAfter .fresh before) q.need)
        ((source.contents ambient).answer zone header
          (source.record header ambient (source.stageAfter .fresh before)).isResolved q) := by
  unfold Record.answer
  rw [build_record, after_at, ask_at]

theorem happens_at (before : List Question) (q : Question) :
    (build header ambient source).1.happens zone before q =
      source.reported ambient (source.stageAfter .fresh before) q.need := by
  unfold Record.happens
  rw [build_record, after_at, ask_at]

theorem render_reports (template : String) (properties : Properties) :
    (render template properties).2 = [] ∨
      ∃ e, (render template properties).2 = [.diagnostic (.parseFailed e)] := by
  unfold render
  cases parse template properties with
  | ok elements => exact .inl rfl
  | error e => exact .inr ⟨e, rfl⟩

theorem render_calls_nothing (template : String) (properties : Properties) :
    (render template properties).2.filter Event.isCall = [] := by
  rcases render_reports template properties with none | ⟨e, one⟩
  · rw [none]
    rfl
  · rw [one]
    rfl

theorem render_warns_once (template : String) (properties : Properties) :
    ((render template properties).2.filter Event.isWarning).length ≤ 1 := by
  rcases render_reports template properties with none | ⟨e, one⟩
  · rw [none]
    exact Nat.zero_le 1
  · rw [one]
    exact Nat.le_refl 1

theorem callback_calls (callback : MessageCallback) :
    callback.events.filter Event.isCall = (Source.lazily callback).call := by
  have formatting : (callback.calls.flatMap fun call => call.render.2).filter Event.isCall = [] := by
    rw [List.filter_flatMap, List.flatMap_eq_nil_iff]
    intro call _
    exact render_calls_nothing call.splice []
  unfold MessageCallback.events
  rw [List.filter_append, formatting]
  rfl

theorem reported_calls (stage : Stage) (need : Need) :
    (source.reported ambient stage need).filter Event.isCall =
      if source.needs need = true ∧ stage = .fresh then source.call else [] := by
  unfold reported
  by_cases needed : source.needs need = true
  · rw [if_pos needed]
    cases source with
    | text message explicit => cases needed
    | template parts => cases needed
    | deferred message callback =>
        have printing :
            (printingReports ambient message stage need callback).filter Event.isCall = [] := by
          cases callback with
          | panicked fault => rfl
          | returned explicit =>
              rw [printingReports]
              split
              · exact render_calls_nothing message (ambient.overlay explicit)
              · rfl
        rw [List.filter_append, printing, List.append_nil]
        by_cases fresh : stage = .fresh
        · simp [needed, fresh, Event.isCall, call]
        · simp [fresh]
    | lazily callback =>
        by_cases fresh : stage = .fresh
        · simp [needed, fresh, callback_calls]
        · simp [fresh]
  · simp [needed]

def warnings (ambient : Properties) : Source → List Event
  | .deferred message (.returned explicit) =>
      (render message (ambient.overlay explicit)).2.filter Event.isWarning
  | _ => []

theorem reported_warnings (stage : Stage) (need : Need) (strict : source.isLazy = false) :
    (source.reported ambient stage need).filter Event.isWarning =
      if (source.needs need = true ∧ need = .pieces) ∧ stage ≠ .printed then source.warnings ambient
      else [] := by
  unfold reported
  by_cases needed : source.needs need = true
  · rw [if_pos needed]
    cases source with
    | text message explicit => cases needed
    | template parts => cases needed
    | lazily callback => cases strict
    | deferred message callback =>
        have called : (if stage = .fresh then [Event.deferredCalled] else []).filter
            Event.isWarning = [] := by
          split <;> rfl
        rw [List.filter_append, called, List.nil_append]
        cases callback with
        | panicked fault => simp [printingReports, warnings]
        | returned explicit =>
            rw [printingReports]
            by_cases printing : need = .pieces ∧ stage ≠ .printed
            · rw [if_pos printing, if_pos ⟨⟨needed, printing.1⟩, printing.2⟩]
              rfl
            · rw [if_neg printing, if_neg fun both => printing ⟨both.1.2, both.2⟩]
              rfl
  · simp [needed]

theorem warned_once : ((build header ambient source).2.filter Event.isWarning).length +
    (source.warnings ambient).length ≤ 1 := by
  cases source with
  | text message explicit => exact render_warns_once message (ambient.overlay explicit)
  | template parts => exact render_warns_once parts.splice []
  | lazily callback => exact Nat.zero_le 1
  | deferred message callback =>
      cases callback with
      | returned explicit =>
          change 0 + _ ≤ 1
          rw [Nat.zero_add]
          exact render_warns_once message (ambient.overlay explicit)
      | panicked fault => exact Nat.zero_le 1

theorem first_need (before : List Question) (q : Question) :
    ((build header ambient source).1.happens zone before q).filter Event.isCall =
      if source.asks q && !before.any source.asks then source.call else [] := by
  rw [happens_at, reported_calls]
  simp [stage_fresh_iff, asks]

theorem first_printing (strict : source.isLazy = false) (before : List Question) (q : Question) :
    ((build header ambient source).1.happens zone before q).filter Event.isWarning =
      if source.prints q && !before.any source.prints then source.warnings ambient else [] := by
  rw [happens_at, reported_warnings ambient source _ _ strict]
  simp [stage_printed_iff, prints, asks]

theorem panicking_refusal (message : String) (panicking : source.panics = some message)
    (stage : Stage) :
    source.refusal stage = some (if stage = .fresh then message else unavailable) := by
  cases source with
  | text template explicit => cases panicking
  | template parts => cases panicking
  | deferred template callback =>
      cases callback with
      | returned explicit => cases panicking
      | panicked fault =>
          cases panicking
          rfl
  | lazily callback =>
      obtain ⟨calls, ending⟩ := callback
      cases ending with
      | panics fault =>
          cases panicking
          rfl
      | pieces pieces => cases panicking
      | call index => cases panicking
      | lastCall => cases panicking

theorem untagged_refusal (untagged : source.untagged = true) (sound : source.panics = none)
    (stage : Stage) : source.refusal stage = some neverTagged := by
  cases source with
  | text message explicit => cases untagged
  | template parts => cases untagged
  | deferred message callback => cases untagged
  | lazily callback =>
      obtain ⟨calls, ending⟩ := callback
      obtain rfl : calls = [] := List.isEmpty_iff.mp untagged
      cases ending with
      | panics fault => cases sound
      | pieces pieces => rfl
      | call index => rfl
      | lastCall => rfl

theorem sound_refusal (tagged : source.untagged = false) (sound : source.panics = none)
    (stage : Stage) : source.refusal stage = none := by
  cases source with
  | text message explicit => rfl
  | template parts => rfl
  | deferred message callback =>
      cases callback with
      | returned explicit => rfl
      | panicked fault => cases sound
  | lazily callback =>
      obtain ⟨calls, ending⟩ := callback
      have some : calls ≠ [] := fun none => by
        subst none
        cases tagged
      have last := List.getLast?_eq_some_getLast some
      cases ending with
      | panics fault => cases sound
      | pieces pieces =>
          simp [refusal, MessageCallback.run, MessageCallback.result, last, refusedMessage]
      | call index =>
          simp [refusal, MessageCallback.run, MessageCallback.result, last, refusedMessage]
      | lastCall =>
          simp [refusal, MessageCallback.run, MessageCallback.result, last, refusedMessage]

theorem answer_unchanged (c : Contents) (resolved other : Bool) (q : Question)
    (unresolved : q ≠ .resolved) : c.answer zone header resolved q =
      c.answer zone header other q := by
  cases q <;> first | rfl | exact absurd rfl unresolved

theorem resolved_next (stage : Stage) (need : Need)
    (resolved : (source.record header ambient stage).isResolved = true) :
    (source.record header ambient (source.next stage need)).isResolved = true := by
  cases source with
  | text message explicit => rfl
  | template parts => rfl
  | deferred message callback =>
      cases callback with
      | panicked fault => cases stage <;> exact absurd resolved Bool.false_ne_true
      | returned explicit =>
          cases stage with
          | fresh => exact absurd resolved Bool.false_ne_true
          | asked => exact absurd resolved Bool.false_ne_true
          | printed => cases need <;> exact resolved
  | lazily callback =>
      cases stage with
      | fresh => exact absurd resolved Bool.false_ne_true
      | asked => cases need <;> exact resolved
      | printed => cases need <;> exact resolved

theorem resolved_after (stage : Stage) (reads : List Question)
    (resolved : (source.record header ambient stage).isResolved = true) :
    (source.record header ambient (source.stageAfter stage reads)).isResolved = true := by
  induction reads generalizing stage with
  | nil => exact resolved
  | cons q reads ih => exact ih _ (resolved_next header ambient source stage q.need resolved)

theorem or_panic_returned {α : Type} (fault : Option String) (value a : α)
    (returned : Outcome.orPanic fault value = .returned a) : value = a := by
  cases fault with
  | none => exact Outcome.returned.inj returned
  | some message => cases returned

theorem fault_needed (stage : Stage) (q : Question) (needed : source.asks q = true) :
    source.fault stage q.need = source.refusal stage :=
  if_pos needed

theorem answer_resolved (before : List Question) :
    (build header ambient source).1.answer zone before .resolved =
      .returned (.flag (source.record header ambient
        (source.stageAfter .fresh before)).isResolved) := by
  rw [answer_at]
  cases source <;> rfl

theorem build_calls_nothing : (build header ambient source).2.filter Event.isCall = [] := by
  cases source with
  | text message explicit => exact render_calls_nothing message (ambient.overlay explicit)
  | template parts => exact render_calls_nothing parts.splice []
  | deferred message callback => rfl
  | lazily callback => rfl

theorem same_answer (before others : List Question) (q : Question) (a b : Answer)
    (unresolved : q ≠ .resolved)
    (first : (build header ambient source).1.answer zone before q = .returned a)
    (second : (build header ambient source).1.answer zone others q = .returned b) : a = b := by
  rw [answer_at] at first second
  rw [← or_panic_returned _ _ _ first, ← or_panic_returned _ _ _ second]
  exact answer_unchanged zone header _ _ _ q unresolved

theorem resolved_stays (before : List Question) :
    ∃ flag, (build header ambient source).1.answer zone before .resolved = .returned (.flag flag) ∧
      (flag = true → ∀ more, (build header ambient source).1.answer zone (before ++ more) .resolved =
        .returned (.flag true)) := by
  refine ⟨_, answer_resolved zone header ambient source before, ?_⟩
  intro resolved more
  have kept := resolved_after header ambient source _ more resolved
  rw [answer_resolved, stage_after_append, kept]

theorem warned_in_all (strict : source.isLazy = false) (reads : List Question) :
    ((build header ambient source).2 ++
      (readAll zone reads (build header ambient source).1).events).countP Event.isWarning ≤ 1 := by
  have printed := once_in_all _ _ _ _ _ (first_printing zone header ambient source strict) reads
  have bound := warned_once header ambient source
  rw [List.countP_append, List.countP_eq_length_filter, List.countP_eq_length_filter, printed]
  split
  · exact bound
  · rw [List.length_nil]
    omega

theorem panicking_answer (message : String) (panicking : source.panics = some message)
    (before : List Question) (q : Question) (needed : source.asks q = true) :
    (build header ambient source).1.answer zone before q =
      .panicked (if before.any source.asks then unavailable else message) := by
  rw [answer_at, fault_needed source _ q needed, panicking_refusal source message panicking]
  change Outcome.panicked _ = _
  by_cases asked : before.any source.asks = true
  · have later : source.stageAfter .fresh before ≠ .fresh := by
      rw [Ne, stage_fresh_iff, asked]
      simp
    rw [if_neg later, if_pos asked]
  · have first : source.stageAfter .fresh before = .fresh := by
      rw [stage_fresh_iff]
      simpa using asked
    rw [if_pos first, if_neg asked]

theorem untagged_answer (untagged : source.untagged = true) (sound : source.panics = none)
    (before : List Question) (q : Question) (needed : source.asks q = true) :
    (build header ambient source).1.answer zone before q = .panicked neverTagged := by
  rw [answer_at, fault_needed source _ q needed, untagged_refusal source untagged sound]
  rfl

theorem sound_answer (before : List Question) (q : Question)
    (spared : source.asks q = false ∨ (source.untagged = false ∧ source.panics = none)) :
    ∃ a, (build header ambient source).1.answer zone before q = .returned a := by
  have none : source.fault (source.stageAfter .fresh before) q.need = none := by
    by_cases needed : source.asks q = true
    · rcases spared with unneeded | ⟨tagged, sound⟩
      · exact absurd needed (ne_true_of_eq_false unneeded)
      · rw [fault_needed source _ q needed]
        exact sound_refusal source tagged sound _
    · exact if_neg needed
  rw [answer_at, none]
  exact ⟨_, rfl⟩

end Source

theorem record_computed_once (zone : Time.Zone) (header : Header) (ambient : Properties)
    (source : Source) :
    Record.ComputedOnce zone source (Record.build header ambient source) where
  notBuilding := Source.build_calls_nothing header ambient source
  firstNeed := Source.first_need zone header ambient source
  once := Record.once_in_all _ _ _ _ _ (Source.first_need zone header ambient source)
  same := Source.same_answer zone header ambient source
  resolving := Source.resolved_stays zone header ambient source
  warned := Source.warned_in_all zone header ambient source
  failing := Source.panicking_answer zone header ambient source
  tagless := Source.untagged_answer zone header ambient source
  answering := Source.sound_answer zone header ambient source

end StructuredLog
