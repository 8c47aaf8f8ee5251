import StructuredLog.Event
import StructuredLog.Template.Printer
import StructuredLog.Time

set_option autoImplicit false

namespace StructuredLog

open Template

def render (template : String) (properties : Properties) : List Piece × List Event :=
  match parse template properties with
  | .ok elements => (print elements, [])
  | .error e => ([], [.diagnostic (.parseFailed e)])

def TemplateParts.render (t : TemplateParts) : List Piece × List Event :=
  StructuredLog.render t.splice []

namespace MessageCallback

def formatted (m : MessageCallback) : List (List Piece) :=
  m.calls.map fun call => call.render.1

def events (m : MessageCallback) : List Event :=
  (m.calls.flatMap fun call => call.render.2) ++ [.lazyCalled false !m.calls.isEmpty]

def result (m : MessageCallback) : Outcome (List Piece) :=
  match m.ending with
  | .panics message => .panicked message
  | .pieces pieces => .returned pieces
  | .call index => .returned ((m.formatted[index]?).getD [])
  | .lastCall => .returned (m.formatted.getLast?.getD [])

def run (m : MessageCallback) : Outcome LazyMessage :=
  match m.result with
  | .panicked message => .panicked message
  | .returned pieces => .returned (m.calls.getLast?.map fun t => (pieces, t))

end MessageCallback

namespace Record

def unavailable : String := "deferred value unavailable (initializer panicked or re-entered)"

def neverTagged : String :=
  "no log record was made: the lazy message callback never called the template tag"

-- A callback runs at the first read that needs its value, and never again.
def build (header : Header) (ambient : Properties) : Source → Record × List Event
  | .text message explicit =>
      let properties := ambient.overlay explicit
      let (pieces, events) := render message properties
      (⟨header, .ready properties, .printed pieces (.text message)⟩, events)
  | .deferred message callback =>
      (⟨header, .pending ⟨ambient, callback⟩, .templated message none⟩, [])
  | .lazily message => (⟨header, .ready ambient, .lazily (.pending message)⟩, [])
  | .template parts =>
      let (pieces, events) := parts.render
      (⟨header, .ready ambient, .printed pieces (.template parts)⟩, events)

abbrev Reading (α : Type) : Type := Act Event Record α

def readProperties : Reading Properties := fun r =>
  match r.properties with
  | .ready properties => ⟨.returned properties, r, []⟩
  | .spent => ⟨.panicked unavailable, r, []⟩
  | .pending ⟨ambient, .returned explicit⟩ =>
      let properties := ambient.overlay explicit
      ⟨.returned properties, { r with properties := .ready properties }, [.deferredCalled]⟩
  | .pending ⟨_, .panicked message⟩ =>
      ⟨.panicked message, { r with properties := .spent }, [.deferredCalled]⟩

def force (message : Deferred MessageCallback LazyMessage) : Reading LazyMessage := fun r =>
  match message with
  | .ready value => ⟨.returned value, r, []⟩
  | .spent => ⟨.panicked unavailable, r, []⟩
  | .pending callback =>
      match callback.run with
      | .returned value => ⟨.returned value, { r with body := .lazily (.ready value) }, callback.events⟩
      | .panicked m => ⟨.panicked m, { r with body := .lazily .spent }, callback.events⟩

def readLazily (message : Deferred MessageCallback LazyMessage) :
    Reading (List Piece × TemplateParts) := do
  match ← force message with
  | some value => pure value
  | none => Act.panic neverTagged

def readMessage : Reading (List Piece) := do
  match (← Act.get).body with
  | .printed pieces _ => pure pieces
  | .templated _ (some pieces) => pure pieces
  | .templated template none =>
      let properties ← readProperties
      let (pieces, events) := render template properties
      Act.emitAll events
      Act.modify fun r => { r with body := .templated template (some pieces) }
      pure pieces
  | .lazily message => return (← readLazily message).1

def readRaw : Reading RawMessage := do
  match (← Act.get).body with
  | .printed _ raw => pure raw
  | .templated template _ => pure (.text template)
  | .lazily message => return .template (← readLazily message).2

def readText : Reading String := do return joined (← readMessage)

def isResolved (r : Record) : Bool :=
  let body := match r.body with
    | .printed .. => true
    | .templated _ pieces => pieces.isSome
    | .lazily message => message.isReady
  body && r.properties.isReady

def readSnapshot : Reading Snapshot := do
  let header := (← Act.get).header
  let message ← readMessage
  let text ← readText
  let raw ← readRaw
  let properties ← readProperties
  return ⟨header.level, header.category, header.label, header.timestamp, message, text, raw,
    properties⟩

def leadingSegments (zone : Time.Zone) (h : Header) : List String :=
  Time.inZone zone h.timestamp :: ((if h.label.isEmpty then [] else [h.label]) ++ h.level.tag
    :: if h.category.isEmpty then [] else ["·".intercalate h.category])

def readSegments (zone : Time.Zone) : Reading (List String) := do
  let header := (← Act.get).header
  let text ← readText
  return leadingSegments zone header ++ [text]

def ask (zone : Time.Zone) : Question → Reading Answer
  | .text => return .text (← readText)
  | .message => return .pieces (← readMessage)
  | .raw => return .raw (← readRaw)
  | .rawDisplay => return .text (← readRaw).display
  | .properties => return .properties (← readProperties)
  | .resolved => return .flag (← Act.get).isResolved
  | .snapshot => return .snapshot (← readSnapshot)
  | .level => return .level (← Act.get).header.level
  | .category => return .texts (← Act.get).header.category
  | .label => return .text (← Act.get).header.label
  | .timestamp => return .timestamp (← Act.get).header.timestamp
  | .segments => return .texts (← readSegments zone)

end Record

end StructuredLog
