import StructuredLog.Proofs.Act
import StructuredLog.Record.Read

set_option autoImplicit false

namespace StructuredLog

open Template

inductive Eager where
  | text (message : String) (properties : Properties)
  | template (parts : TemplateParts)

namespace Eager

def source : Eager → Source
  | .text message properties => .text message properties
  | .template parts => .template parts

def properties (ambient : Properties) : Eager → Properties
  | .text _ explicit => ambient.overlay explicit
  | .template _ => ambient

def pieces (ambient : Properties) : Eager → List Piece
  | .text message explicit => (render message (ambient.overlay explicit)).1
  | .template parts => parts.render.1

def raw : Eager → RawMessage
  | .text message _ => .text message
  | .template parts => .template parts

def record (header : Header) (ambient : Properties) (message : Eager) : Record :=
  ⟨header, .ready (message.properties ambient), .printed (message.pieces ambient) message.raw⟩

def snapshot (header : Header) (ambient : Properties) (message : Eager) : Snapshot :=
  ⟨header.level, header.category, header.label, header.timestamp, message.pieces ambient,
    joined (message.pieces ambient), message.raw, message.properties ambient⟩

end Eager

namespace Record

theorem build_eager (header : Header) (ambient : Properties) (message : Eager) :
    (build header ambient message.source).1 = message.record header ambient := by
  cases message with
  | text message explicit => rfl
  | template parts => rfl

-- Nothing in the record is still to be computed, so reading it can neither change it nor fail.
structure Settled (r : Record) : Prop where
  properties : ∃ ps, r.properties = .ready ps
  body : ∃ pieces raw, r.body = .printed pieces raw

theorem eager_settled (header : Header) (ambient : Properties) (message : Eager) :
    Settled (message.record header ambient) :=
  ⟨⟨_, rfl⟩, ⟨_, _, rfl⟩⟩

theorem read_snapshot_eager (header : Header) (ambient : Properties) (message : Eager) :
    Act.Returns readSnapshot (message.record header ambient) (message.snapshot header ambient)
      (message.record header ambient) := ⟨[], rfl⟩

def Steady {α : Type} (m : Reading α) : Prop := ∀ r, Settled r → ∃ a, Act.Returns m r a r

theorem steady_pure {α : Type} (a : α) : Steady (pure a : Reading α) :=
  fun r _ => ⟨a, Act.returns_pure a r⟩

theorem steady_get : Steady (Act.get : Reading Record) := fun r _ => ⟨r, Act.returns_get r⟩

theorem steady_bind {α β : Type} (m : Reading α) (f : α → Reading β) (first : Steady m)
    (rest : ∀ a, Steady (f a)) : Steady (m >>= f) := by
  intro r settled
  obtain ⟨a, returned⟩ := first r settled
  obtain ⟨b, returned'⟩ := rest a r settled
  exact ⟨b, Act.returns_bind m f r r r a b returned returned'⟩

theorem read_properties_steady : Steady readProperties := by
  intro r settled
  obtain ⟨⟨ps, ready⟩, _⟩ := settled
  exact ⟨ps, [], by simp only [readProperties, ready]⟩

theorem read_message_steady : Steady readMessage := by
  intro r settled
  obtain ⟨header, properties, body⟩ := r
  obtain ⟨_, pieces, raw, rfl⟩ := settled
  exact ⟨pieces, [], rfl⟩

theorem read_raw_steady : Steady readRaw := by
  intro r settled
  obtain ⟨header, properties, body⟩ := r
  obtain ⟨_, pieces, raw, rfl⟩ := settled
  exact ⟨raw, [], rfl⟩

theorem read_text_steady : Steady readText :=
  steady_bind _ _ read_message_steady fun pieces => steady_pure (joined pieces)

theorem read_snapshot_steady : Steady readSnapshot :=
  steady_bind _ _ steady_get fun _ => steady_bind _ _ read_message_steady fun _ =>
    steady_bind _ _ read_text_steady fun _ => steady_bind _ _ read_raw_steady fun _ =>
      steady_bind _ _ read_properties_steady fun _ => steady_pure _

end Record

end StructuredLog
