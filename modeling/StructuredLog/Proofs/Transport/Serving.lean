import StructuredLog.Proofs.Record.Unread
import StructuredLog.Transport.Manager

set_option autoImplicit false

namespace StructuredLog

open Template

namespace Console

def partReads : LayoutPart → Question
  | .levelUpper => .level
  | .text => .text
  | .category => .category
  | .raw => .rawDisplay

def partShows (header : Header) (c : Contents) : LayoutPart → List String
  | .levelUpper => [upperAscii header.level.name]
  | .text => [joined c.pieces]
  | .category => header.category
  | .raw => [c.raw.display]

def reads (console : Console) : List Question :=
  match console.layout with
  | .standard => [.message]
  | .custom parts => parts.map partReads

def shows (zone : Time.Zone) (header : Header) (c : Contents) (console : Console) :
    List String :=
  match console.layout with
  | .standard =>
      styledLeading zone console.colors header ++ [styledMessage console.colors c.pieces]
  | .custom parts => parts.flatMap (partShows header c)

end Console

-- The text is forwarded only where the level is traced.
def Sink.reads (traced : Bool) : Sink → List Question
  | .memory .. => [.snapshot]
  | .console out => out.reads
  | .forwarding => .properties :: if traced then [.text] else []
  | .failing .. => []

namespace Transport

def served (platform : Platform) (header : Header) (c : Contents) :
    Act Event Transport Delivery := fun t =>
  match t.sink with
  | .memory capacity kept poisoned =>
      if poisoned then ⟨.returned (.error (.rejected t.id Memory.poisoned)), t, []⟩
      else ⟨.returned (.ok ()), { t with
        sink := .memory capacity (Memory.push capacity kept (c.snapshot header)) false }, []⟩
  | .console out =>
      let line := " ".intercalate (out.shows platform.zone header c)
      let (result, device, events) := Console.write platform.refusal t.id (line ++ "\n") out.device
      ⟨.returned result, { t with sink := .console { out with device := device } }, events⟩
  | .forwarding =>
      ⟨.returned (.ok ()), t, if platform.traced header.level then
        [.diagnostic (.forwarded header.level header.category header.label c.properties
          (joined c.pieces))] else []⟩
  | .failing reason attempts =>
      ⟨.returned (.error (.rejected t.id reason)),
        { t with sink := .failing reason (attempts + 1) }, []⟩

theorem store_report (sink : Sink) (events : List Event) (result : Delivery) (t : Transport)
    (r : Record) :
    (do
      setSink sink
      Act.emitAll events
      return result : Act Event (Transport × Record) Delivery) (t, r) =
      ⟨.returned result, ({ t with sink := sink }, r), events⟩ := by
  refine (Act.bind_quiet _ _ (t, r) ({ t with sink := sink }, r) () rfl).trans ?_
  exact Act.map_returned (Act.emitAll events) (fun _ => result) _ _ () events rfl

end Transport

namespace Unread

open Record

variable (u : Unread)

theorem bare : u.source.needs .nothing = false := by
  cases u.source <;> rfl

theorem gives_part (part : LayoutPart) :
    u.Gives (u.source.asks (Console.partReads part)) (Console.partSegments part)
      (Console.partShows u.header u.contents part) := by
  cases part with
  | levelUpper =>
      have shown := u.gives_pure [upperAscii u.header.level.name]
      rw [← u.bare] at shown
      exact u.gives_header (fun header => pure [upperAscii header.level.name]) _ _ shown
  | text => exact u.gives_map _ (fun text => [text]) _ _ u.gives_text
  | category =>
      have shown := u.gives_pure u.header.category
      rw [← u.bare] at shown
      exact u.gives_header (fun header => pure header.category) _ _ shown
  | raw => exact u.gives_map _ (fun raw => [raw.display]) _ _ u.gives_raw

theorem gives_parts (parts : List LayoutPart) :
    u.Gives ((parts.map Console.partReads).any u.source.asks) (Console.allParts parts)
      (parts.flatMap (Console.partShows u.header u.contents)) := by
  induction parts with
  | nil => exact u.gives_pure []
  | cons part rest ih =>
      exact u.gives_bind _ _ _ _ _ _ (u.gives_part part)
        (u.gives_map _ (fun later => _ ++ later) _ _ ih)

theorem gives_line (zone : Time.Zone) (console : Console) :
    u.Gives (console.reads.any u.source.asks) (console.line zone)
      (" ".intercalate (console.shows zone u.header u.contents)) := by
  refine u.gives_map _ (" ".intercalate ·) _ _ ?_
  unfold Console.segments Console.reads Console.shows
  cases console.layout with
  | custom parts => exact u.gives_parts parts
  | standard =>
      change u.Gives (u.source.asks .message || false) _ _
      rw [Bool.or_false]
      refine u.gives_header (fun header => do
        let pieces ← readMessage
        return Console.styledLeading zone console.colors header ++
          [Console.styledMessage console.colors pieces]) _ _ ?_
      exact u.gives_map _ (fun pieces => Console.styledLeading zone console.colors u.header ++
        [Console.styledMessage console.colors pieces]) _ _ u.gives_message

theorem gives_forward (traced : Level → Bool) :
    u.Gives ((Sink.reads (traced u.header.level) .forwarding).any u.source.asks)
      (Transport.forward traced)
      (if traced u.header.level then some (.forwarded u.header.level u.header.category
        u.header.label u.contents.properties (joined u.contents.pieces)) else none) := by
  let told := fun (header : Header) properties text =>
    some (Diagnostic.forwarded header.level header.category header.label properties text)
  refine u.gives_header (fun header => do
    let properties ← readProperties
    if traced header.level then
      let text ← readText
      return told header properties text
    else return none) _ _ ?_
  refine u.gives_bind _ _ _ _ _ _ u.gives_properties ?_
  cases traced u.header.level with
  | false => exact u.gives_pure none
  | true =>
      have text := u.gives_map _ (told u.header u.contents.properties) _ _ u.gives_text
      rwa [← Bool.or_false (u.source.asks .text)] at text

variable (platform : Platform)

def misses (t : Transport) : Bool :=
  (t.sink.reads (platform.traced u.header.level)).any u.source.asks

def offer : Act Event Transport Delivery := fun t =>
  if u.misses platform t then ⟨.panicked u.reason, t, u.source.callReports⟩
  else Transport.served platform u.header u.contents t

-- A transport that reads what is missing is left as it was; any other one is served.
theorem send_keeps : u.Keeps (Transport.send platform) (u.offer platform) := by
  intro t
  unfold Transport.send
  rw [Act.bind_quiet Act.get _ (t, u.record) (t, u.record) (t, u.record) rfl]
  obtain ⟨id, enabled, sink⟩ := t
  cases sink with
  | memory capacity kept poisoned =>
      have gives := u.gives_snapshot
      rw [← Bool.or_false (u.source.asks .snapshot)] at gives
      refine u.follows_read _ _ _ _ _ _ gives fun _ => ?_
      cases poisoned with
      | true => exact .returned _ _ _
      | false =>
          rw [Transport.store_pushed]
          exact .returned _ _ _
  | console out =>
      refine u.follows_read _ _ _ _ _ _ (u.gives_line platform.zone out) fun _ => ?_
      dsimp only
      rw [Transport.store_report]
      exact .returned _ _ _
  | forwarding =>
      refine u.follows_read _ _ _ _ _ _ (u.gives_forward platform.traced) fun _ => ?_
      unfold Transport.served
      cases platform.traced u.header.level with
      | true => exact .returned _ _ _
      | false => exact .returned _ _ _
  | failing reason attempts => exact .returned _ _ _

end Unread

end StructuredLog
