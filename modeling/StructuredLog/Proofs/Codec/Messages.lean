import StructuredLog.Proofs.Codec.Fields

set_option autoImplicit false

namespace StructuredLog

open Number

-- Numbers as they are held: in one word.
structure Template.Position.Sized (p : Template.Position) : Prop where
  offset : p.offset < wordBound
  line : p.line < wordBound
  column : p.column < wordBound

structure Template.Location.Sized (l : Template.Location) : Prop where
  start : l.start.Sized
  stop : l.stop.Sized

def TemplateParts.Ordered (t : TemplateParts) : Prop := Json.ItemsOrdered t.values

def RawMessage.Ordered : RawMessage → Prop
  | .text _ => True
  | .template parts => parts.Ordered

structure Snapshot.Held (s : Snapshot) : Prop where
  timestamp : s.timestamp < wordBound
  raw : s.raw.Ordered
  properties : (Json.object s.properties).Ordered

namespace Codec

open Document Template

theorem position_decodes (p : Position) (sized : p.Sized) : Decodes position p.toJson p := by
  intro d written
  obtain ⟨_, read, offset, _, rfl, here, line, _, rfl, row, column, _, rfl, place, rfl⟩ :=
    fields_read ["offset", "line", "column"] _ d written rfl (by decide)
  have offset_read := natural_decodes p.offset sized.offset offset here
  have line_read := natural_decodes p.line sized.line line row
  have column_read := natural_decodes p.column sized.column column place
  unfold position
  rw [read]
  simp [offset_read, line_read, column_read]

theorem location_decodes (l : Location) (sized : l.Sized) : Decodes location l.toJson l := by
  intro d written
  obtain ⟨_, read, start, _, rfl, first, stop, _, rfl, last, rfl⟩ :=
    fields_read ["start", "end"] _ d written rfl (by decide)
  have start_read := position_decodes l.start sized.start start first
  have stop_read := position_decodes l.stop sized.stop stop last
  unfold location
  rw [read]
  simp [start_read, stop_read]

theorem kind_of_name (k : Kind) : Kind.ofName? k.name = some k := by
  cases k <;> rfl

theorem fault_of_constant (f : Fault) : Fault.ofConstant? f.constant = some f := by
  cases f <;> rfl

theorem level_of_name (l : Level) : Level.ofName? l.name = some l := by
  cases l <;> rfl

theorem parse_error_decodes (e : ParseError) (sized : e.location.Sized) :
    Decodes parseError e.toJson e := by
  intro d written
  obtain ⟨_, read, kind, _, rfl, named, message, _, rfl, told, place, _, rfl, located, rfl⟩ :=
    fields_read ["kind", "message", "location"] _ d written rfl (by decide)
  have kind_read : fault kind = some e.fault :=
    named_decodes _ _ _ (fault_of_constant e.fault) kind named
  have message_read := text_decodes e.template message told
  have place_read := location_decodes e.location sized place located
  unfold parseError
  rw [read]
  simp [kind_read, message_read, place_read]

section Within

variable (limit : Nesting)

theorem sound_written (depth : Nat) (j : Json) (d : Document) (written : j.Written d)
    (shallow : j.Within limit depth) : isSound limit depth d = true := by
  obtain ⟨v, read, -⟩ := value_written limit depth j d written shallow
  rw [isSound, read]
  rfl

theorem filter_written (p : String → Bool) (q : Option String → Bool)
    (alike : ∀ name, q (some name) = p name) (fields : List (String × Json))
    (ds : List (Option String × Document)) (written : Json.FieldsWritten fields ds) :
    Json.FieldsWritten (fields.filter fun f => p f.1) (ds.filter fun f => q f.1) := by
  induction fields generalizing ds with
  | nil =>
      cases written
      rfl
  | cons field fields ih =>
      obtain ⟨d, rest, rfl, this, others⟩ := written
      by_cases kept : p field.1
      · rw [List.filter_cons_of_pos (by exact kept),
          List.filter_cons_of_pos (by simpa [alike] using kept)]
        exact ⟨d, _, rfl, this, ih rest others⟩
      · rw [List.filter_cons_of_neg (by exact kept),
          List.filter_cons_of_neg (by simpa [alike] using kept)]
        exact ih rest others

theorem tagged_reads (tag : String) (value : Json) (others : List (String × Json)) (d : Document)
    (written : (Json.object ((tag, value) :: others)).Written d)
    (once : ∀ f ∈ others, f.1 ≠ tag) (shallow : (Json.object others).Within limit 0) :
    ∃ kind rest, tagged limit tag d = some (kind, rest) ∧ value.Written kind ∧
      (Json.object others).Written rest := by
  obtain ⟨ds, listed, rfl, moved, written⟩ := written
  have those := filter_written (· == tag) (· == some tag) (fun _ => rfl) _ listed written
  have rest := filter_written (· != tag) (· != some tag) (fun _ => rfl) _ listed written
  have alone : ((tag, value) :: others).filter (fun f => f.1 == tag) = [(tag, value)] := by
    rw [List.filter_cons_of_pos (by simp),
      List.filter_eq_nil_iff.mpr (by simpa using once)]
  have remaining : ((tag, value) :: others).filter (fun f => f.1 != tag) = others := by
    rw [List.filter_cons_of_neg (by simp), List.filter_eq_self.mpr (by simpa using once)]
  rw [alone] at those
  rw [remaining] at rest
  obtain ⟨kind, _, found, named, rfl⟩ := those
  have found' : ds.filter (fun f => f.1 == some tag) = [(some tag, kind)] := by
    have kept := moved.filter fun f => f.1 == some tag
    rw [found] at kept
    exact List.perm_singleton.mp kept
  have rest_written : (Json.object others).Written (.object (ds.filter fun f => f.1 != some tag)) :=
    ⟨_, _, rfl, moved.filter _, rest⟩
  refine ⟨kind, _, ?_, named, rest_written⟩
  rw [tagged, if_pos (sound_written limit 0 _ _ rest_written shallow), found']

theorem element_decodes (e : Element) (sized : e.location.Sized)
    (shallow : e.toJson.Within limit 0) : Decodes (elementWithin limit) e.toJson e := by
  intro d written
  obtain ⟨roomy, -, fits⟩ := shallow
  obtain ⟨_, rest, found, rfl, written⟩ := tagged_reads limit "type" (.string e.kind.name)
    [("value", .string e.value), ("location", e.location.toJson)] d written (by simp) ⟨roomy, fits⟩
  obtain ⟨_, read, value, _, rfl, told, place, _, rfl, located, rfl⟩ :=
    fields_read ["value", "location"] _ rest written rfl (by decide)
  have value_read := text_decodes e.value value told
  have place_read := location_decodes e.location sized place located
  simp only [List.map_cons, List.map_nil] at read
  unfold elementWithin
  simp [found, kind_of_name, read, value_read, place_read]

theorem adjacent_reads (depth : Nat) (tag content name : String) (value : Json) (d : Document)
    (different : tag ≠ content)
    (written : (Json.object [(tag, .string name), (content, value)]).Written d)
    (shallow : value.Within limit (depth + 1)) :
    ∃ c, adjacent limit depth tag content d = some (.string (some name), c) ∧ value.Written c := by
  obtain ⟨_, read, _, _, rfl, rfl, c, _, rfl, held, rfl⟩ :=
    fields_read [tag, content] _ d written rfl (by simpa using different)
  refine ⟨c, ?_, held⟩
  simp only [List.map_cons, List.map_nil] at read
  simp [adjacent, read, sound_written limit (depth + 1) value c held shallow]

theorem piece_decodes (p : Piece) : Decodes (pieceWithin limit) p.toJson p := by
  intro d written
  obtain ⟨_, found, rfl⟩ :=
    adjacent_reads limit 0 "kind" "text" p.kind.name _ d (by decide) written trivial
  have kind_read : view.named Kind.ofName? (.string (some p.kind.name)) = some p.kind :=
    kind_of_name p.kind
  simp [pieceWithin, found, kind_read, asText]

theorem every_values (depth : Nat) (ds : List Document) :
    View.every (value? limit depth) ds = values? limit depth ds := by
  induction ds with
  | nil => rfl
  | cons d ds ih =>
      unfold View.every values?
      rw [ih]
      cases value? limit depth d <;> cases values? limit depth ds <;> rfl

theorem template_parts_decode (depth : Nat) (t : TemplateParts) (ordered : t.Ordered)
    (shallow : t.toJson.Within limit depth) :
    Decodes (templatePartsWithin limit depth) t.toJson t := by
  intro d written
  obtain ⟨_, _, ⟨_, within⟩, _⟩ := shallow
  obtain ⟨_, read, parts, _, rfl, texts, values, _, rfl, held, rfl⟩ :=
    fields_read ["parts", "values"] _ d written rfl (by decide)
  have parts_read := texts_decode t.parts parts texts
  have values_read : view.list (value? limit (depth + 2)) values = some t.values := by
    obtain ⟨ds, rfl, items⟩ := held
    obtain ⟨vs, found, same⟩ := values_written limit (depth + 2) t.values ds items within
    rw [same ordered] at found
    exact (every_values limit (depth + 2) ds).trans found
  unfold templatePartsWithin
  rw [read]
  simp [parts_read, values_read]

theorem raw_message_decodes (depth : Nat) (m : RawMessage) (ordered : m.Ordered)
    (shallow : m.toJson.Within limit depth) :
    Decodes (rawMessageWithin limit depth) m.toJson m := by
  intro d written
  cases m with
  | text message =>
      obtain ⟨_, found, rfl⟩ :=
        adjacent_reads limit depth "kind" "value" "text" _ d (by decide) written trivial
      simp [rawMessageWithin, found, asConstant, asText]
  | template parts =>
      obtain ⟨_, _, fits, _⟩ := shallow
      obtain ⟨c, found, held⟩ :=
        adjacent_reads limit depth "kind" "value" "template" _ d (by decide) written fits
      have parts_read := template_parts_decode limit (depth + 1) parts ordered fits c held
      simp [rawMessageWithin, found, asConstant, parts_read]

theorem properties_decode (depth : Nat) (m : Properties) (ordered : (Json.object m).Ordered)
    (shallow : (Json.object m).Within limit depth) :
    Decodes (propertiesWithin limit depth) (.object m) m := by
  intro d written
  obtain ⟨v, found, same⟩ := value_written limit depth (.object m) d written shallow
  rw [propertiesWithin, found, same ordered]

theorem snapshot_decodes (s : Snapshot) (held : s.Held) (shallow : s.toJson.Within limit 0) :
    Decodes (snapshotWithin limit) s.toJson s := by
  intro d written
  obtain ⟨_, read, l, _, rfl, named, category, _, rfl, texts, label, _, rfl, labelled,
      timestamp, _, rfl, stamped, message, _, rfl, pieces, text, _, rfl, told,
      raw, _, rfl, unprinted, properties, _, rfl, map, rfl⟩ :=
    fields_read ["level", "category", "prefix", "timestamp", "message", "text", "raw_message",
      "properties"] _ d written rfl (by decide)
  obtain ⟨_, _, _, _, _, _, _, raw_fits, properties_fit, _⟩ := shallow
  have level_read : level l = some s.level := named_decodes _ _ _ (level_of_name s.level) l named
  have category_read := texts_decode s.category category texts
  have label_read := text_decodes s.label label labelled
  have timestamp_read := natural_decodes s.timestamp held.timestamp timestamp stamped
  have message_read := list_decodes (pieceWithin limit) Piece.toJson s.message
    (fun p _ => piece_decodes limit p) message pieces
  have text_read := text_decodes s.text text told
  have raw_read := raw_message_decodes limit 1 s.raw held.raw raw_fits raw unprinted
  have properties_read :=
    properties_decode limit 1 s.properties held.properties properties_fit properties map
  unfold snapshotWithin
  rw [read]
  simp [level_read, category_read, label_read, timestamp_read, message_read, text_read, raw_read,
    properties_read]

end Within

end Codec

end StructuredLog
