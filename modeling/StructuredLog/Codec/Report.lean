import StructuredLog.Codec.Message
import StructuredLog.Config.Settings
import StructuredLog.Event

set_option autoImplicit false

namespace StructuredLog

namespace Codec

def panicked (message : String) : Json :=
  .object [("error", .string "panic"), ("message", .string message)]

def outcome : Outcome Json → Json
  | .returned value => value
  | .panicked message => panicked message

def option (value : Option Json) : Json := value.getD .null

def found : Option Json → Json
  | none => .string "none"
  | some value => .object [("some", value)]

def threshold (t : Threshold) : Json := option (t.map fun l => .string l.name)

def isPresent (timestamp : Nat) : Bool := 1700000000000 ≤ timestamp && timestamp ≤ 4000000000000

def timestamp (n : Nat) : Json := if isPresent n then .string "now" else .nat n

end Codec

namespace TransportError

def kind : TransportError → String
  | .rejected .. => "rejected"
  | .io _ => "io"
  | .other _ => "other"

def toJson (e : TransportError) : Json :=
  .object [("error", .string e.kind), ("message", .string e.message),
    ("flags", .array [.bool e.isRejected, .bool e.isIo])]

end TransportError

namespace Config.Error

def kind : Config.Error → String
  | .io _ => "io"
  | .unreadable .toml _ => "toml_parse"
  | .unreadable .yaml _ => "yaml_parse"
  | .unreadable .json _ => "json_parse"
  | .unsupportedFormat _ => "unsupported_format"
  | .fileNotFound _ => "file_not_found"
  | .invalidPath _ => "invalid_path"
  | .badVariable .. => "env_var_parsing"
  | .invalidValue .. => "invalid_value"
  | .missing _ => "missing_required"
  | .conflict _ => "conflicting_values"
  | .diagnostics _ => "diagnostics"

def isWorded : Config.Error → Bool
  | .io _ | .unreadable .. => false
  | _ => true

def toJson (e : Config.Error) : Json :=
  .object ([("error", .string e.kind), ("validation", .bool e.isValidation)]
    ++ if e.isWorded then [("message", .string e.message)] else [])

end Config.Error

namespace Diagnostics.Error

def kind : Diagnostics.Error → String
  | .invalidFilter .. => "invalid_filter"
  | .unknownFormat _ => "unknown_format"
  | .unknownOutput _ => "unknown_output"
  | .alreadyInstalled => "already_initialized"

def toJson (e : Diagnostics.Error) : Json :=
  .object [("error", .string e.kind), ("message", .string e.message),
    ("already_initialized", .bool (e == .alreadyInstalled))]

end Diagnostics.Error

def Diagnostic.toJson (d : Diagnostic) : Json :=
  .object [("level", .string d.severity.name), ("target", .string d.target),
    ("fields", .object (("message", .string d.message) ::
      d.fields.map fun f => (f.1, f.2.toJson)))]

def Snapshot.report (s : Snapshot) : Json :=
  match s.toJson with
  | .object fields =>
      .object (fields.map fun f =>
        if f.1 = "timestamp" then (f.1, Codec.timestamp s.timestamp) else f)
  | other => other

def Answer.toJson : Answer → Json
  | .text s => .string s
  | .pieces ps => .array (ps.map (·.toJson))
  | .raw r => r.toJson
  | .properties ps => .object ps
  | .flag b => .bool b
  | .snapshot s => s.report
  | .level l => .string l.name
  | .texts ss => .ofTexts ss
  | .timestamp n => Codec.timestamp n
  | .panicked message => Codec.panicked message

def Event.toJson? : Event → Option Json
  | .diagnostic d => some (.object [("diag", d.toJson)])
  | .deferredCalled => some (.object [("called", .string "deferred")])
  | .lazyCalled before after =>
      some (.object [("called", .string "lazy"), ("tagged", .array [.bool before, .bool after])])
  | .notified listener level reads =>
      some (.object [("notified", .string listener), ("level", .string level.name),
        ("reads", .array (reads.map Answer.toJson))])
  | .acted action result => some (.object [("action", .string action), ("r", result)])
  | .wrote .. => none
  | .answered _ => none

end StructuredLog
