import StructuredLog.Config.Validation
import StructuredLog.Logger

set_option autoImplicit false

namespace StructuredLog.Config

def TransportSettings.build (colors : Bool) (id : String) (t : TransportSettings) : Transport :=
  let sink : Sink := match t.kind with
    | .console => .console ⟨t.color.getD colors, .standard, .stream t.target⟩
    | .memory => .memory t.capacity [] false
    | .tracing => .forwarding
  ⟨id, t.enabled, sink⟩

def buildTransports (colors : Bool) : IdSource → List TransportSettings → List Transport × IdSource
  | source, [] => ([], source)
  | source, t :: rest =>
      let (id, source) := source.generate t.explicitId
      let (more, source) := buildTransports colors source rest
      (t.build colors id :: more, source)

def memory? (id : String) (ts : List Transport) : Option Transport :=
  ts.find? fun t => t.id == id && (match t.sink with | .memory .. => true | _ => false)

def Settings.options (refs : List TransportRef) (s : Settings) : Except Error LoggerOptions := do
  return ⟨s.logger.label, s.logger.enabled, s.logger.category, refs, ← s.logger.threshold⟩

def addTransports : List Transport → Engine → List TransportRef × Engine
  | [], e => ([], e)
  | t :: rest, e =>
      let (ref, e) := e.addTransport t
      let (refs, e) := addTransports rest e
      (ref :: refs, e)

def Settings.newLogger (colors : Bool) (source : IdSource) (s : Settings) (e : Engine) :
    Except Error (Logger × Engine) := do
  let (built, source) := buildTransports colors source s.transports
  let (refs, e) := addTransports built e
  return e.newLogger (← s.options refs) source

end StructuredLog.Config
