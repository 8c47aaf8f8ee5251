import StructuredLog.Codec.Fields
import StructuredLog.Codec.Settings
import StructuredLog.Proofs.Codec.Messages

set_option autoImplicit false

namespace StructuredLog

open Document Codec

@[simp] theorem Properties.find_when_set (name other : String) (value : Option Json) :
    Properties.find? other (Json.whenSet name value) = if name = other then value else none := by
  cases value <;> simp [Json.whenSet, find?]

namespace Config

def LoggerSettings.names : List String := ["prefix", "enabled", "category", "lowest_level"]

def LoggerSettings.Loose (s : LoggerSettings) : Document → Prop :=
  Codec.Loose names standard.toJson.properties (fun _ => Json.Written) s.toJson.properties

def TransportSettings.names : List String :=
  ["kind", "id", "enabled", "target", "color", "capacity"]

def TransportSettings.Loose (t : TransportSettings) : Document → Prop :=
  Codec.Loose names standard.toJson.properties (fun _ => Json.Written) t.toJson.properties

def TransportSettings.Sized (t : TransportSettings) : Prop :=
  ∀ capacity, t.capacity = some capacity → capacity < Number.wordBound

end Config

namespace Diagnostics.Settings

def names : List String := ["format", "filter", "ansi", "timestamps", "targets", "output"]

def Loose (s : Settings) : Document → Prop :=
  Codec.Loose names standard.toJson.properties (fun _ => Json.Written) s.toJson.properties

end Diagnostics.Settings

namespace Config.Settings

def names : List String := ["logger", "transports", "diagnostics"]

def PartLoose (s : Settings) (name : String) (_ : Json) (d : Document) : Prop :=
  match name with
  | "logger" => s.logger.Loose d
  | "transports" => ∃ ds, d = .array ds ∧ List.Forall₂ TransportSettings.Loose s.transports ds
  | _ => s.diagnostics.Loose d

def Loose (s : Settings) : Document → Prop :=
  Codec.Loose names standard.toJson.properties s.PartLoose s.toJson.properties

def Sized (s : Settings) : Prop := ∀ t ∈ s.transports, t.Sized

end Config.Settings

namespace Codec

open Config

@[simp] theorem view_text : view.text = asText := rfl

@[simp] theorem view_flag : view.flag = asFlag := rfl

@[simp] theorem view_natural : view.natural = asNatural := rfl

@[simp] theorem of_texts_inj (a b : List String) : Json.ofTexts a = Json.ofTexts b ↔ a = b := by
  have one : Function.Injective Json.string := fun _ _ same => Json.string.inj same
  unfold Json.ofTexts
  rw [Json.array.injEq, List.map_inj_right one]

theorem kind_named (k : TransportKind) : TransportKind.ofName? k.name = some k := by
  cases k <;> rfl

theorem stream_named (s : Stream) :
    Diagnostics.streamOfName? (Diagnostics.streamName s) = some s := by
  cases s <;> rfl

theorem format_named (f : Diagnostics.Format) : Diagnostics.Format.ofName? f.name = some f := by
  cases f <;> rfl

@[simp] theorem kind_name_inj (a b : TransportKind) : a.name = b.name ↔ a = b := by
  cases a <;> cases b <;> decide

@[simp] theorem stream_name_inj (a b : Stream) :
    Diagnostics.streamName a = Diagnostics.streamName b ↔ a = b := by
  cases a <;> cases b <;> decide

@[simp] theorem format_name_inj (a b : Diagnostics.Format) : a.name = b.name ↔ a = b := by
  cases a <;> cases b <;> decide

theorem decodes_injective {α : Type} (decode : Document → Option α) (j : Json) (x y : α)
    (left : Decodes decode j x) (right : Decodes decode j y) : x = y :=
  Option.some.inj ((left _ j.written_self).symm.trans (right _ j.written_self))

theorem written_null (j : Json) (d : Document) (written : j.Written d) : isNull d = j.isNull := by
  cases j with
  | null | bool | number | string =>
      cases written
      rfl
  | array items =>
      obtain ⟨_, rfl, -⟩ := written
      rfl
  | object fields =>
      obtain ⟨_, _, rfl, -⟩ := written
      rfl

section Entries

variable {standard : List (String × Json)} {writes : String → Json → Document → Prop}
  {fields : List (String × Json)} {name : String} {entry : Option Document}

theorem or_else_field {α : Type} {decode : Document → Option α} {x usual : α} {value : Json}
    (found : Found standard writes fields name entry)
    (present : Properties.find? name fields = some value)
    (kept : ∀ d, writes name value d → decode d = some x)
    (left_out : (name, value) ∈ standard → x = usual) :
    View.orElse usual decode entry = some x := by
  unfold Found at found
  rw [present] at found
  cases entry with
  | none => exact congrArg some (left_out found).symm
  | some d => exact kept d found

theorem or_else_set {α : Type} {decode : Document → Option α} (write : α → Json) {x : Option α}
    (found : Found standard (fun _ => Json.Written) fields name entry)
    (present : Properties.find? name fields = x.map write)
    (decodes : ∀ a, x = some a → Decodes decode (write a) a)
    (given : ∀ a, (write a).isNull = false) (always : ∀ value, (name, value) ∉ standard) :
    View.orElse none (view.optional decode) entry = some x := by
  unfold Found at found
  rw [present] at found
  cases x with
  | none =>
      cases found
      rfl
  | some a =>
      cases entry with
      | none => exact absurd found (always _)
      | some d =>
          have set : isNull d = false := (written_null _ d found).trans (given a)
          simp [View.orElse, View.optional, view, set, decodes a rfl d found]

end Entries

@[simp] theorem usual_logger : LoggerSettings.standard.toJson.properties =
    [("prefix", .string LoggerSettings.standard.label),
      ("enabled", .bool LoggerSettings.standard.enabled),
      ("category", .ofTexts LoggerSettings.standard.category),
      ("lowest_level", .string LoggerSettings.standard.lowestLevel)] := rfl

theorem loose_logger_decodes (s : LoggerSettings) (d : Document) (loose : s.Loose d) :
    loggerSettings view d = some s := by
  obtain ⟨_, read, found⟩ :=
    loose_fields _ _ _ _ d loose (by decide : LoggerSettings.names.Nodup)
  obtain _ | ⟨label, _ | ⟨enabled, _ | ⟨category, _ | ⟨level, _ | _⟩⟩⟩⟩ := found
  have label_read : View.orElse LoggerSettings.standard.label asText _ = some s.label :=
    or_else_field label rfl (text_decodes s.label) (by simp)
  have enabled_read : View.orElse LoggerSettings.standard.enabled asFlag _ = some s.enabled :=
    or_else_field enabled rfl (flag_decodes s.enabled) (by simp)
  have category_read :
      View.orElse LoggerSettings.standard.category (view.list asText) _ = some s.category :=
    or_else_field category rfl (texts_decode s.category) (by simp)
  have level_read : View.orElse LoggerSettings.standard.lowestLevel asText _ = some s.lowestLevel :=
    or_else_field level rfl (text_decodes s.lowestLevel) (by simp)
  have read : view.fields ["prefix", "enabled", "category", "lowest_level"] d = _ := read
  unfold loggerSettings
  rw [read]
  simp [label_read, enabled_read, category_read, level_read]

@[simp] theorem usual_transport : TransportSettings.standard.toJson.properties =
    [("kind", .string TransportSettings.standard.kind.name),
      ("id", .string TransportSettings.standard.id),
      ("enabled", .bool TransportSettings.standard.enabled),
      ("target", .string (Diagnostics.streamName TransportSettings.standard.target))] := rfl

theorem transport_fields (t : TransportSettings) : t.toJson.properties =
    [("kind", .string t.kind.name), ("id", .string t.id), ("enabled", .bool t.enabled),
        ("target", .string (Diagnostics.streamName t.target))]
      ++ Json.whenSet "color" (t.color.map .bool) ++ Json.whenSet "capacity" (t.capacity.map .nat) :=
  rfl

theorem transport_names_once (t : TransportSettings) :
    (t.toJson.properties.map Prod.fst).Nodup := by
  cases color : t.color <;> cases capacity : t.capacity <;>
    simp [TransportSettings.toJson, Json.properties, Json.whenSet, color, capacity]

theorem loose_transport_decodes (t : TransportSettings) (sized : t.Sized) (d : Document)
    (loose : t.Loose d) : transportSettings view d = some t := by
  obtain ⟨_, read, found⟩ := loose_fields _ _ _ _ d loose (transport_names_once t)
  obtain _ | ⟨kind, _ | ⟨id, _ | ⟨enabled, _ | ⟨target, _ | ⟨color, _ | ⟨capacity, _ | _⟩⟩⟩⟩⟩⟩ :=
    found
  have kind_read :
      View.orElse TransportSettings.standard.kind (transportKind view) _ = some t.kind :=
    or_else_field kind rfl (named_decodes _ _ _ (kind_named t.kind)) (by simp)
  have id_read : View.orElse TransportSettings.standard.id asText _ = some t.id :=
    or_else_field id rfl (text_decodes t.id) (by simp)
  have enabled_read : View.orElse TransportSettings.standard.enabled asFlag _ = some t.enabled :=
    or_else_field enabled rfl (flag_decodes t.enabled) (by simp)
  have target_read :
      View.orElse TransportSettings.standard.target (stream view) _ = some t.target :=
    or_else_field target rfl (named_decodes _ _ _ (stream_named t.target)) (by simp)
  have color_read :
      View.orElse TransportSettings.standard.color (view.optional asFlag) _ = some t.color :=
    or_else_set Json.bool color (by simp [transport_fields, Properties.find?])
      (fun b _ => flag_decodes b) (fun _ => rfl) (by simp)
  have capacity_read :
      View.orElse TransportSettings.standard.capacity (view.optional asNatural) _ =
        some t.capacity :=
    or_else_set Json.nat capacity
      (by simp [transport_fields, Properties.find?])
      (fun n set => natural_decodes n (sized n set)) (fun _ => rfl) (by simp)
  have read : view.fields ["kind", "id", "enabled", "target", "color", "capacity"] d = _ := read
  unfold transportSettings
  rw [read]
  simp [kind_read, id_read, enabled_read, target_read, color_read, capacity_read]

@[simp] theorem usual_diagnostics : Diagnostics.Settings.standard.toJson.properties =
    [("format", .string Diagnostics.Settings.standard.format.name),
      ("ansi", .bool Diagnostics.Settings.standard.ansi),
      ("timestamps", .bool Diagnostics.Settings.standard.timestamps),
      ("targets", .bool Diagnostics.Settings.standard.targets),
      ("output", .string (Diagnostics.streamName Diagnostics.Settings.standard.output))] := rfl

theorem diagnostics_names_once (s : Diagnostics.Settings) :
    (s.toJson.properties.map Prod.fst).Nodup := by
  cases filter : s.filter <;>
    simp [Diagnostics.Settings.toJson, Json.properties, Json.whenSet, filter]

theorem diagnostics_fields (s : Diagnostics.Settings) : s.toJson.properties =
    [("format", .string s.format.name)] ++ Json.whenSet "filter" (s.filter.map .string)
      ++ [("ansi", .bool s.ansi), ("timestamps", .bool s.timestamps), ("targets", .bool s.targets),
        ("output", .string (Diagnostics.streamName s.output))] := rfl

theorem loose_diagnostics_decodes (s : Diagnostics.Settings) (d : Document) (loose : s.Loose d) :
    diagnosticsSettings view d = some s := by
  obtain ⟨_, read, found⟩ := loose_fields _ _ _ _ d loose (diagnostics_names_once s)
  obtain _ | ⟨format, _ | ⟨filter, _ | ⟨ansi, _ | ⟨timestamps, _ | ⟨targets, _ |
    ⟨output, _ | _⟩⟩⟩⟩⟩⟩ := found
  have format_read : View.orElse Diagnostics.Settings.standard.format
      (view.named Diagnostics.Format.ofName?) _ = some s.format :=
    or_else_field format rfl (named_decodes _ _ _ (format_named s.format)) (by simp)
  have filter_read :
      View.orElse Diagnostics.Settings.standard.filter (view.optional asText) _ = some s.filter :=
    or_else_set Json.string filter (by simp [diagnostics_fields, Properties.find?])
      (fun text _ => text_decodes text) (fun _ => rfl) (by simp)
  have ansi_read : View.orElse Diagnostics.Settings.standard.ansi asFlag _ = some s.ansi :=
    or_else_field ansi (by simp [diagnostics_fields, Properties.find?]) (flag_decodes s.ansi)
      (by simp)
  have timestamps_read :
      View.orElse Diagnostics.Settings.standard.timestamps asFlag _ = some s.timestamps :=
    or_else_field timestamps (by simp [diagnostics_fields, Properties.find?])
      (flag_decodes s.timestamps) (by simp)
  have targets_read : View.orElse Diagnostics.Settings.standard.targets asFlag _ = some s.targets :=
    or_else_field targets (by simp [diagnostics_fields, Properties.find?])
      (flag_decodes s.targets) (by simp)
  have output_read :
      View.orElse Diagnostics.Settings.standard.output (stream view) _ = some s.output :=
    or_else_field output (by simp [diagnostics_fields, Properties.find?])
      (named_decodes _ _ _ (stream_named s.output)) (by simp)
  have read : view.fields ["format", "filter", "ansi", "timestamps", "targets", "output"] d = _ :=
    read
  unfold diagnosticsSettings
  rw [read]
  simp [format_read, filter_read, ansi_read, timestamps_read, targets_read, output_read]

theorem logger_decodes (s : LoggerSettings) : Decodes (loggerSettings view) s.toJson s :=
  fun d written =>
    loose_logger_decodes s d (written_plain _ _ _ d written)

theorem transport_decodes (t : TransportSettings) (sized : t.Sized) :
    Decodes (transportSettings view) t.toJson t := fun d written =>
  loose_transport_decodes t sized d (written_plain _ _ _ d written)

theorem diagnostics_decode (s : Diagnostics.Settings) :
    Decodes (diagnosticsSettings view) s.toJson s := fun d written =>
  loose_diagnostics_decodes s d (written_plain _ _ _ d written)

@[simp] theorem logger_json_inj (a b : LoggerSettings) : a.toJson = b.toJson ↔ a = b :=
  ⟨fun same => decodes_injective _ _ a b (logger_decodes a) (same ▸ logger_decodes b),
    congrArg _⟩

@[simp] theorem diagnostics_json_inj (a b : Diagnostics.Settings) :
    a.toJson = b.toJson ↔ a = b :=
  ⟨fun same => decodes_injective _ _ a b (diagnostics_decode a) (same ▸ diagnostics_decode b),
    congrArg _⟩

@[simp] theorem usual_settings : Config.Settings.standard.toJson.properties =
    [("logger", Config.Settings.standard.logger.toJson), ("transports", .array []),
      ("diagnostics", Config.Settings.standard.diagnostics.toJson)] := rfl

theorem loose_transports_decode (ts : List TransportSettings) (sized : ∀ t ∈ ts, t.Sized)
    (ds : List Document) (loose : List.Forall₂ TransportSettings.Loose ts ds) :
    View.every (transportSettings view) ds = some ts := by
  induction loose with
  | nil => rfl
  | cons this others ih =>
      rw [View.every, loose_transport_decodes _ (sized _ List.mem_cons_self) _ this,
        ih fun t member => sized t (List.mem_cons_of_mem _ member)]

theorem loose_settings_decode (s : Config.Settings) (sized : s.Sized) (d : Document)
    (loose : s.Loose d) : settings view d = some s := by
  obtain ⟨_, read, found⟩ :=
    loose_fields _ _ _ _ d loose (by decide : Config.Settings.names.Nodup)
  obtain _ | ⟨logger, _ | ⟨transports, _ | ⟨diagnostics, _ | _⟩⟩⟩ := found
  have logger_read :
      View.orElse Config.Settings.standard.logger (loggerSettings view) _ = some s.logger :=
    or_else_field logger rfl (loose_logger_decodes s.logger) (by simp)
  have each (d : Document)
      (part : s.PartLoose "transports" (.array (s.transports.map (·.toJson))) d) :
      view.list (transportSettings view) d = some s.transports := by
    obtain ⟨ds, rfl, loose⟩ := part
    exact loose_transports_decode s.transports sized ds loose
  have transports_read :
      View.orElse Config.Settings.standard.transports (view.list (transportSettings view)) _ =
        some s.transports :=
    or_else_field transports rfl each fun usual => show s.transports = [] by simpa using usual
  have diagnostics_read :
      View.orElse Config.Settings.standard.diagnostics (diagnosticsSettings view) _ =
        some s.diagnostics :=
    or_else_field diagnostics rfl (loose_diagnostics_decodes s.diagnostics) (by simp)
  have read : view.fields ["logger", "transports", "diagnostics"] d = _ := read
  unfold settings
  rw [read]
  simp [logger_read, transports_read, diagnostics_read]

theorem transports_loose (ts : List TransportSettings) (ds : List Document)
    (written : Json.ItemsWritten (ts.map (·.toJson)) ds) :
    List.Forall₂ TransportSettings.Loose ts ds := by
  induction ts generalizing ds with
  | nil =>
      cases written
      exact .nil
  | cons t ts ih =>
      obtain ⟨d, rest, rfl, this, others⟩ := written
      exact .cons (written_plain _ _ _ d this) (ih rest others)

theorem settings_loose (s : Config.Settings) (d : Document) (written : s.toJson.Written d) :
    s.Loose d := by
  refine written_loose _ _ _ _ d ?_ written
  intro f member d this
  rcases List.mem_cons.mp member with rfl | member
  · exact written_plain _ _ _ d this
  rcases List.mem_cons.mp member with rfl | member
  · obtain ⟨ds, rfl, items⟩ := this
    exact ⟨ds, rfl, transports_loose s.transports ds items⟩
  · cases List.mem_singleton.mp member
    exact written_plain _ _ _ d this

open Template

-- What is written is read back, whatever the order of fields; settings are read back from all that
-- may stand for them.
theorem serialized_forms_decode (limit : Nesting) :
    (∀ j : Json, j.Within none 0) ∧
    (∀ x : Position, x.Sized → Decodes position x.toJson x) ∧
    (∀ x : Location, x.Sized → Decodes location x.toJson x) ∧
    (∀ x : ParseError, x.location.Sized → Decodes parseError x.toJson x) ∧
    (∀ x : Element, x.location.Sized → x.toJson.Within limit 0 →
      Decodes (elementWithin limit) x.toJson x) ∧
    (∀ x : Piece, Decodes (pieceWithin limit) x.toJson x) ∧
    (∀ x : TemplateParts, x.Ordered → x.toJson.Within limit 0 →
      Decodes (templatePartsWithin limit 0) x.toJson x) ∧
    (∀ x : RawMessage, x.Ordered → x.toJson.Within limit 0 →
      Decodes (rawMessageWithin limit 0) x.toJson x) ∧
    (∀ x : Snapshot, x.Held → x.toJson.Within limit 0 →
      Decodes (snapshotWithin limit) x.toJson x) ∧
    (∀ x : LoggerSettings, Decodes (loggerSettings view) x.toJson x) ∧
    (∀ x : TransportSettings, x.Sized → Decodes (transportSettings view) x.toJson x) ∧
    (∀ x : Diagnostics.Settings, Decodes (diagnosticsSettings view) x.toJson x) ∧
    (∀ x : Config.Settings, x.Sized → Decodes (settings view) x.toJson x) ∧
    ∀ x : Config.Settings, x.Sized → ∀ d, x.Loose d → settings view d = some x :=
  ⟨Json.within_unlimited 0, position_decodes, location_decodes, parse_error_decodes,
    element_decodes limit, piece_decodes limit, template_parts_decode limit 0,
    raw_message_decodes limit 0, snapshot_decodes limit, logger_decodes, transport_decodes,
    diagnostics_decode,
    fun s sized d written => loose_settings_decode s sized d (settings_loose s d written),
    loose_settings_decode⟩

def memorySettings : Config.Settings :=
  ⟨.standard, [⟨.memory, "", true, .stderr, none, some 8⟩], .standard⟩

def sparseDocument : Document :=
  .object [(some "theme", .null), (some "transports", .array [.object
    [(some "capacity", .number (some (.int 8))), (some "colour", .bool true),
      (some "kind", .string (some "memory"))]])]

def nestedSnapshot : Snapshot :=
  ⟨.warn, ["app"], "[Logger]", 1, [⟨.literal, "n="⟩, ⟨.argument, "[1]"⟩], "n=[1]",
    .template ⟨["n=", ""], [.array [.nat 1]]⟩, [("a", .null), ("b", .object [("c", .nat 2)])]⟩

theorem sparse_loose : memorySettings.Loose sparseDocument := by
  refine ⟨_, _, rfl, .refl _, .extra _ _ _ _ (by decide) (.drop _ _ _ _ (.head _)
    (.keep _ _ _ _ _ ⟨_, rfl, .cons ?transport .nil⟩
      (.drop _ _ _ _ (.tail _ (.tail _ (.head _))) .nil)))⟩
  exact ⟨_, _, rfl, .trans (.cons _ (.swap _ _ _)) (.swap _ _ _),
    .keep _ _ _ _ _ rfl (.drop _ _ _ _ (.tail _ (.head _))
      (.drop _ _ _ _ (.tail _ (.tail _ (.head _)))
        (.drop _ _ _ _ (.tail _ (.tail _ (.tail _ (.head _))))
          (.keep _ _ _ _ _ rfl (.extra _ _ _ _ (by decide) .nil)))))⟩

theorem serialized_forms_decode_sparse :
    settings view sparseDocument = some memorySettings ∧
      snapshotWithin none (.ofJson nestedSnapshot.toJson) = some nestedSnapshot := by
  obtain ⟨within, -, -, -, -, -, -, -, snapshots, -, -, -, -, loose⟩ := serialized_forms_decode none
  have sized : memorySettings.Sized := by
    intro t member capacity set
    cases List.mem_singleton.mp member
    cases set
    decide
  have held : nestedSnapshot.Held :=
    ⟨by decide, ⟨⟨trivial, trivial⟩, trivial⟩, by decide, trivial,
      ⟨by decide, trivial, trivial⟩, trivial⟩
  exact ⟨loose _ sized _ sparse_loose, snapshots _ held (within _) _ (Json.written_self _)⟩

end Codec

end StructuredLog
