import StructuredLog.Logger
import StructuredLog.Text.Quoted

set_option autoImplicit false

namespace StructuredLog

open Text

namespace Inspect

def list (items : List String) : String := "[" ++ ", ".intercalate items ++ "]"

def map (entries : List (String × String)) : String :=
  "\x7b" ++ ", ".intercalate (entries.map fun e => e.1 ++ ": " ++ e.2) ++ "\x7d"

def fields (name : String) (more : Bool) (parts : List (String × String)) : String :=
  let shown := parts.map fun p => p.1 ++ ": " ++ p.2
  name ++ " \x7b " ++ ", ".intercalate (if more then shown ++ [".."] else shown) ++ " \x7d"

def wrapped (name value : String) : String := name ++ "(" ++ value ++ ")"

def text (s : String) : String := spelledOut s

def texts (ss : List String) : String := list (ss.map text)

def flag (b : Bool) : String := if b then "true" else "false"

def level : Level → String
  | .trace => "Trace"
  | .debug => "Debug"
  | .info => "Info"
  | .warn => "Warn"
  | .error => "Error"
  | .fatal => "Fatal"

def threshold : Threshold → String
  | none => "None"
  | some l => wrapped "Some" (level l)

mutual
def json : Json → String
  | .null => "Null"
  | .bool b => wrapped "Bool" (flag b)
  | .number n => wrapped "Number" (String.ofList n.text)
  | .string s => wrapped "String" (text s)
  | .array items => "Array " ++ list (jsonItems items)
  | .object fields => "Object " ++ map (jsonFields fields)
def jsonItems : List Json → List String
  | [] => []
  | item :: rest => json item :: jsonItems rest
def jsonFields : List (String × Json) → List (String × String)
  | [] => []
  | (key, value) :: rest => (text key, json value) :: jsonFields rest
end

def properties (ps : Properties) : String := map (jsonFields ps)

def source : Source → String
  | .text message ps =>
      fields "Text" false [("message", text message), ("properties", wrapped "Eager" (properties ps))]
  | .deferred message _ =>
      fields "Text" false [("message", text message), ("properties", wrapped "Deferred" "..")]
  | .lazily _ => wrapped "Lazy" ".."
  | .template t =>
      fields "Template" false [("parts", texts t.parts), ("values", list (jsonItems t.values))]

def header (h : Header) : String :=
  fields "RecordHeader" false
    [("level", level h.level), ("category", texts h.category), ("prefix", text h.label),
     ("timestamp", toString h.timestamp)]

def record (r : Record) : String :=
  fields "LogRecord" true [("header", header r.header), ("resolved", flag r.isResolved)]

def scopes (s : Scopes) : String :=
  fields "ContextManager" false
    [("depth", toString s.depth),
     ("contexts", map (s.stored.map fun row => (toString row.1, properties row.2)))]

def device : Device → String
  | .stream .stderr => "stderr"
  | .stream .stdout => "stdout"
  | .writer .. => "writer"

def console (id : String) (enabled : Bool) (c : Console) : String :=
  fields "ConsoleTransport" false
    [("state", fields "TransportState" false [("id", text id), ("enabled", flag enabled)]),
     ("sink", text (device c.device)), ("colors", flag c.colors),
     ("custom_formatter", flag (c.layout != .standard))]

def manager (m : Manager) : String := fields "TransportManager" false [("ids", texts m.ids)]

def registry (r : Registry) : String := fields "SubscriptionRegistry" false [("ids", texts r.ids)]

def options (o : LoggerOptions) : String :=
  fields "LoggerConfig" true
    [("prefix", text o.label), ("enabled", flag o.enabled), ("category", texts o.category),
     ("transports", toString o.transports.length), ("lowest_level", threshold o.threshold)]

def logger (l : Logger) (f : Family) (r : Registry) : String :=
  fields "Logger" false
    [("prefix", text f.label), ("category", texts l.category), ("enabled", flag f.enabled),
     ("lowest_level", threshold f.threshold), ("transports", manager f.transports),
     ("subscriptions", registry r)]

end Inspect

end StructuredLog
