import StructuredLog.Proofs.Act
import StructuredLog.Record.Read

set_option autoImplicit false

namespace StructuredLog

open Template

inductive Need where
  | nothing
  | properties
  | raw
  | pieces
deriving DecidableEq, Repr

def Question.need : Question → Need
  | .text | .message | .snapshot | .segments => .pieces
  | .raw | .rawDisplay => .raw
  | .properties => .properties
  | .resolved | .level | .category | .label | .timestamp => .nothing

namespace Source

def needs : Source → Need → Bool
  | .deferred .., .properties | .deferred .., .pieces => true
  | .lazily _, .raw | .lazily _, .pieces => true
  | _, _ => false

end Source

structure Contents where
  properties : Properties
  raw : RawMessage
  pieces : List Piece

def Contents.answer (zone : Time.Zone) (header : Header) (resolved : Bool) (c : Contents) :
    Question → Answer
  | .text => .text (joined c.pieces)
  | .message => .pieces c.pieces
  | .raw => .raw c.raw
  | .rawDisplay => .text c.raw.display
  | .properties => .properties c.properties
  | .resolved => .flag resolved
  | .snapshot => .snapshot ⟨header.level, header.category, header.label, header.timestamp, c.pieces,
      joined c.pieces, c.raw, c.properties⟩
  | .level => .level header.level
  | .category => .texts header.category
  | .label => .text header.label
  | .timestamp => .timestamp header.timestamp
  | .segments => .texts (Record.leadingSegments zone header ++ [joined c.pieces])

def Outcome.orPanic {α : Type} (fault : Option String) (value : α) : Outcome α :=
  match fault with
  | none => .returned value
  | some message => .panicked message

namespace Record

structure Open (t : Record) (c : Contents) : Prop where
  pieces : readMessage t = ⟨.returned c.pieces, t, []⟩
  raw : readRaw t = ⟨.returned c.raw, t, []⟩
  properties : readProperties t = ⟨.returned c.properties, t, []⟩

section Asking

variable (zone : Time.Zone) (r t : Record) (c : Contents) (q : Question) (resolved : Bool)
  (fault : Option String) (events : List Event)

theorem map_read {α β : Type} (m : Reading α) (f : α → β) (value : α)
    (read : m r = ⟨.orPanic fault value, t, events⟩) :
    (m >>= fun a => pure (f a)) r = ⟨.orPanic fault (f value), t, events⟩ := by
  cases fault with
  | none => exact Act.map_returned _ _ _ _ _ _ read
  | some message => exact Act.bind_stopped _ _ _ _ _ _ read

theorem ask_nothing (need : q.need = .nothing) :
    ask zone q r = ⟨.returned (c.answer zone r.header r.isResolved q), r, []⟩ := by
  cases q <;> first | rfl | cases need

theorem ask_properties (need : q.need = .properties)
    (read : readProperties r = ⟨.orPanic fault c.properties, t, events⟩) :
    ask zone q r = ⟨.orPanic fault (c.answer zone r.header resolved q), t, events⟩ := by
  cases q <;> try cases need
  exact map_read r t fault events _ Answer.properties _ read

theorem ask_raw (need : q.need = .raw)
    (read : readRaw r = ⟨.orPanic fault c.raw, t, events⟩) :
    ask zone q r = ⟨.orPanic fault (c.answer zone r.header resolved q), t, events⟩ := by
  cases q <;> try cases need
  case raw => exact map_read r t fault events _ Answer.raw _ read
  case rawDisplay => exact map_read r t fault events _ (fun raw => Answer.text raw.display) _ read

theorem read_text (read : readMessage r = ⟨.orPanic fault c.pieces, t, events⟩) :
    readText r = ⟨.orPanic fault (joined c.pieces), t, events⟩ :=
  map_read r t fault events _ joined _ read

theorem read_segments (read : readMessage r = ⟨.orPanic fault c.pieces, t, events⟩) :
    readSegments zone r =
      ⟨.orPanic fault (leadingSegments zone r.header ++ [joined c.pieces]), t, events⟩ := by
  have text := read_text r t c fault events read
  refine (Act.bind_quiet _ _ r r r rfl).trans ?_
  exact map_read r t fault events _ (fun text => leadingSegments zone r.header ++ [text]) _ text

theorem read_snapshot (read : readMessage r = ⟨.orPanic fault c.pieces, t, events⟩)
    (done : fault = none → Open t c) :
    readSnapshot r = ⟨.orPanic fault ⟨r.header.level, r.header.category, r.header.label,
      r.header.timestamp, c.pieces, joined c.pieces, c.raw, c.properties⟩, t, events⟩ := by
  refine (Act.bind_quiet _ _ r r r rfl).trans ?_
  cases fault with
  | some message => exact Act.bind_stopped _ _ _ _ _ _ read
  | none =>
      have rest := done rfl
      refine Act.bind_then_quiet _ _ r t t _ _ _ read ?_
      rw [Act.bind_quiet _ _ t t _ (read_text t t c none [] rest.pieces),
        Act.bind_quiet _ _ t t _ rest.raw, Act.bind_quiet _ _ t t _ rest.properties]
      rfl

theorem ask_pieces (need : q.need = .pieces)
    (read : readMessage r = ⟨.orPanic fault c.pieces, t, events⟩)
    (done : fault = none → Open t c) :
    ask zone q r = ⟨.orPanic fault (c.answer zone r.header resolved q), t, events⟩ := by
  cases q <;> try cases need
  case text => exact map_read r t fault events _ _ _ (read_text r t c fault events read)
  case message => exact map_read r t fault events _ _ _ read
  case snapshot =>
    exact map_read r t fault events _ _ _ (read_snapshot r t c fault events read done)
  case segments => exact map_read r t fault events _ _ _ (read_segments zone r t c fault events read)

theorem read_templated (template : String) (properties : Properties)
    (body : r.body = .templated template none)
    (read : readProperties r = ⟨.returned properties, t, events⟩) :
    readMessage r = ⟨.returned (render template properties).1,
      { t with body := .templated template (some (render template properties).1) },
      events ++ (render template properties).2⟩ := by
  refine (Act.bind_quiet _ _ r r r rfl).trans ?_
  rw [body]
  refine (Act.bind_returned _ _ _ _ _ _ read).trans ?_
  have printed : (do
      Act.emitAll (render template properties).2
      Act.modify fun r =>
        { r with body := .templated template (some (render template properties).1) }
      pure (render template properties).1 : Reading (List Piece)) t =
      ⟨.returned (render template properties).1,
        { t with body := .templated template (some (render template properties).1) },
        (render template properties).2⟩ :=
    Act.bind_then_quiet _ _ t t _ () _ _ rfl rfl
  exact congrArg (fun ran => Ran.mk ran.outcome ran.state (events ++ ran.events)) printed

theorem read_templated_panicked (template message : String)
    (body : r.body = .templated template none)
    (read : readProperties r = ⟨.panicked message, t, events⟩) :
    readMessage r = ⟨.panicked message, t, events⟩ := by
  refine (Act.bind_quiet _ _ r r r rfl).trans ?_
  rw [body]
  exact Act.bind_stopped _ _ _ _ _ _ read

end Asking

end Record

-- No read has needed the callback, or some have, or one of them needed the pieces of the message.
inductive Stage where
  | fresh
  | asked
  | printed
deriving DecidableEq, Repr

namespace Source

open Record

def next (source : Source) (stage : Stage) (need : Need) : Stage :=
  if source.needs need then if need = .pieces ∨ stage = .printed then .printed else .asked
  else stage

def settledProperties (ambient : Properties) :
    PropertyCallback → Deferred PendingProperties Properties
  | .returned explicit => .ready (ambient.overlay explicit)
  | .panicked _ => .spent

def settledPieces (ambient : Properties) (message : String) : PropertyCallback → Option (List Piece)
  | .returned explicit => some (render message (ambient.overlay explicit)).1
  | .panicked _ => none

def settledMessage : Outcome LazyMessage → Deferred MessageCallback LazyMessage
  | .returned message => .ready message
  | .panicked _ => .spent

def keptProperties (ambient : Properties) (callback : PropertyCallback) :
    Stage → Deferred PendingProperties Properties
  | .fresh => .pending ⟨ambient, callback⟩
  | .asked | .printed => settledProperties ambient callback

def keptPieces (ambient : Properties) (message : String) (callback : PropertyCallback) :
    Stage → Option (List Piece)
  | .fresh | .asked => none
  | .printed => settledPieces ambient message callback

def keptMessage (callback : MessageCallback) : Stage → Deferred MessageCallback LazyMessage
  | .fresh => .pending callback
  | .asked | .printed => settledMessage callback.run

def record (header : Header) (ambient : Properties) (source : Source) (stage : Stage) : Record :=
  match source with
  | .text message explicit =>
      ⟨header, .ready (ambient.overlay explicit),
        .printed (render message (ambient.overlay explicit)).1 (.text message)⟩
  | .template parts => ⟨header, .ready ambient, .printed parts.render.1 (.template parts)⟩
  | .deferred message callback =>
      ⟨header, keptProperties ambient callback stage,
        .templated message (keptPieces ambient message callback stage)⟩
  | .lazily callback => ⟨header, .ready ambient, .lazily (keptMessage callback stage)⟩

def made : Outcome LazyMessage → List Piece × TemplateParts
  | .returned (some message) => message
  | _ => ([], ⟨[], []⟩)

def contents (ambient : Properties) : Source → Contents
  | .text message explicit | .deferred message (.returned explicit) =>
      ⟨ambient.overlay explicit, .text message, (render message (ambient.overlay explicit)).1⟩
  | .deferred message (.panicked _) => ⟨ambient, .text message, []⟩
  | .template parts => ⟨ambient, .template parts, parts.render.1⟩
  | .lazily callback => ⟨ambient, .template (made callback.run).2, (made callback.run).1⟩

def refusedMessage (stage : Stage) : Outcome LazyMessage → Option String
  | .panicked message => some (if stage = .fresh then message else unavailable)
  | .returned none => some neverTagged
  | .returned (some _) => none

def refusal (stage : Stage) : Source → Option String
  | .deferred _ (.panicked message) => some (if stage = .fresh then message else unavailable)
  | .lazily callback => refusedMessage stage callback.run
  | _ => none

def fault (source : Source) (stage : Stage) (need : Need) : Option String :=
  if source.needs need then source.refusal stage else none

def printingReports (ambient : Properties) (message : String) (stage : Stage) (need : Need) :
    PropertyCallback → List Event
  | .returned explicit =>
      if need = .pieces ∧ stage ≠ .printed then (render message (ambient.overlay explicit)).2
      else []
  | .panicked _ => []

def reported (ambient : Properties) (source : Source) (stage : Stage) (need : Need) : List Event :=
  if source.needs need then
    match source with
    | .deferred message callback =>
        (if stage = .fresh then [.deferredCalled] else []) ++
          printingReports ambient message stage need callback
    | .lazily callback => if stage = .fresh then callback.events else []
    | _ => []
  else []

section Reading

variable (header : Header) (ambient : Properties) (source : Source) (stage : Stage)

theorem record_header : (source.record header ambient stage).header = header := by
  cases source <;> rfl

theorem read_properties_at :
    readProperties (source.record header ambient stage) =
      ⟨.orPanic (source.fault stage .properties) (source.contents ambient).properties,
        source.record header ambient (source.next stage .properties),
        source.reported ambient stage .properties⟩ := by
  cases source with
  | text message explicit => rfl
  | template parts => rfl
  | deferred message callback => cases callback <;> cases stage <;> rfl
  | lazily callback => rfl

theorem force_at (callback : MessageCallback) :
    force (keptMessage callback stage) ((Source.lazily callback).record header ambient stage) =
      ⟨match callback.run with
        | .returned message => .returned message
        | .panicked message => .panicked (if stage = .fresh then message else unavailable),
        ⟨header, .ready ambient, .lazily (settledMessage callback.run)⟩,
        if stage = .fresh then callback.events else []⟩ := by
  cases run : callback.run <;> cases stage <;> simp [force, keptMessage, settledMessage, record, run]

theorem read_lazily_at (callback : MessageCallback) (need : Need)
    (wanted : (Source.lazily callback).needs need = true) :
    readLazily (keptMessage callback stage)
        ((Source.lazily callback).record header ambient stage) =
      ⟨.orPanic ((Source.lazily callback).fault stage need) (made callback.run),
        (Source.lazily callback).record header ambient ((Source.lazily callback).next stage need),
        (Source.lazily callback).reported ambient stage need⟩ := by
  have forced := force_at header ambient stage callback
  have moved : (Source.lazily callback).record header ambient
      ((Source.lazily callback).next stage need) =
      ⟨header, .ready ambient, .lazily (settledMessage callback.run)⟩ := by
    unfold next
    rw [if_pos wanted]
    split <;> rfl
  rw [moved]
  unfold fault reported
  rw [if_pos wanted, if_pos wanted]
  change _ = Ran.mk (.orPanic (refusedMessage stage callback.run) _) _ _
  cases run : callback.run with
  | panicked message =>
      rw [run] at forced
      exact Act.bind_stopped _ _ _ _ _ _ forced
  | returned found =>
      rw [run] at forced
      cases found with
      | none => exact Act.bind_then_quiet _ _ _ _ _ _ _ _ forced rfl
      | some made => exact Act.bind_then_quiet _ _ _ _ _ _ _ _ forced rfl

theorem read_raw_at :
    readRaw (source.record header ambient stage) =
      ⟨.orPanic (source.fault stage .raw) (source.contents ambient).raw,
        source.record header ambient (source.next stage .raw),
        source.reported ambient stage .raw⟩ := by
  cases source with
  | text message explicit => rfl
  | template parts => rfl
  | deferred message callback => cases callback <;> cases stage <;> rfl
  | lazily callback =>
      let r := (Source.lazily callback).record header ambient stage
      refine (Act.bind_quiet _ _ r r r rfl).trans ?_
      exact map_read _ _ _ _ _ (fun made => RawMessage.template made.2) _
        (read_lazily_at header ambient stage callback .raw rfl)

theorem read_message_at :
    readMessage (source.record header ambient stage) =
      ⟨.orPanic (source.fault stage .pieces) (source.contents ambient).pieces,
        source.record header ambient (source.next stage .pieces),
        source.reported ambient stage .pieces⟩ := by
  cases source with
  | text message explicit => rfl
  | template parts => rfl
  | deferred message callback =>
      have properties := read_properties_at header ambient (.deferred message callback) stage
      cases callback with
      | panicked fault =>
          cases stage <;> exact (read_templated_panicked _ _ _ message _ rfl properties).trans rfl
      | returned explicit =>
          cases stage with
          | fresh => exact (read_templated _ _ _ message _ rfl properties).trans rfl
          | asked => exact (read_templated _ _ _ message _ rfl properties).trans rfl
          | printed => rfl
  | lazily callback =>
      let r := (Source.lazily callback).record header ambient stage
      refine (Act.bind_quiet _ _ r r r rfl).trans ?_
      exact map_read _ _ _ _ _ Prod.fst _
        (read_lazily_at header ambient stage callback .pieces rfl)

-- Once the pieces of a message are there, nothing is left to compute.
theorem fault_anywhere (need : Need) (other : Stage) (sound : source.fault stage .pieces = none) :
    source.fault other need = none := by
  cases source with
  | text message explicit => rfl
  | template parts => rfl
  | deferred message callback =>
      cases callback with
      | returned explicit => cases need <;> rfl
      | panicked message => cases sound
  | lazily callback =>
      have some : refusedMessage stage callback.run = none := sound
      have kept : refusedMessage other callback.run = none := by
        cases run : callback.run with
        | panicked message =>
            rw [run] at some
            cases some
        | returned found =>
            rw [run] at some
            cases found with
            | none => cases some
            | some message => rfl
      cases need with
      | nothing => rfl
      | properties => rfl
      | raw => exact kept
      | pieces => exact kept

theorem next_again (need : Need) :
    source.next (source.next stage .pieces) need = source.next stage .pieces := by
  cases source <;> cases need <;> rfl

theorem reported_again (need : Need) :
    source.reported ambient (source.next stage .pieces) need = [] := by
  cases source with
  | text message explicit => cases need <;> rfl
  | template parts => cases need <;> rfl
  | deferred message callback => cases callback <;> cases need <;> rfl
  | lazily callback => cases need <;> rfl

theorem open_after (sound : source.fault stage .pieces = none) :
    Open (source.record header ambient (source.next stage .pieces)) (source.contents ambient) := by
  constructor
  case pieces =>
    have read := read_message_at header ambient source (source.next stage .pieces)
    rwa [fault_anywhere source stage _ _ sound, next_again, reported_again] at read
  case raw =>
    have read := read_raw_at header ambient source (source.next stage .pieces)
    rwa [fault_anywhere source stage _ _ sound, next_again, reported_again] at read
  case properties =>
    have read := read_properties_at header ambient source (source.next stage .pieces)
    rwa [fault_anywhere source stage _ _ sound, next_again, reported_again] at read

theorem ask_at (zone : Time.Zone) (q : Question) :
    ask zone q (source.record header ambient stage) =
      ⟨.orPanic (source.fault stage q.need)
          ((source.contents ambient).answer zone header
            (source.record header ambient stage).isResolved q),
        source.record header ambient (source.next stage q.need),
        source.reported ambient stage q.need⟩ := by
  have same := record_header header ambient source stage
  have answered : ∀ resolved, (source.contents ambient).answer zone header resolved q =
      (source.contents ambient).answer zone (source.record header ambient stage).header resolved
        q := by
    intro resolved
    rw [same]
  rw [answered]
  cases need : q.need with
  | nothing =>
      rw [ask_nothing _ _ (source.contents ambient) q need]
      cases source <;> rfl
  | properties =>
      exact ask_properties _ _ _ _ q _ _ _ need (read_properties_at header ambient source stage)
  | raw => exact ask_raw _ _ _ _ q _ _ _ need (read_raw_at header ambient source stage)
  | pieces =>
      exact ask_pieces _ _ _ _ q _ _ _ need (read_message_at header ambient source stage)
        (open_after header ambient source stage)

end Reading

end Source

end StructuredLog
