import StructuredLog.Codec.Document
import StructuredLog.Codec.Settings
import StructuredLog.Config.Overrides
import StructuredLog.Config.Path
import StructuredLog.Config.Toml
import StructuredLog.Config.Validation
import StructuredLog.Config.Yaml
import StructuredLog.Json.Reader

set_option autoImplicit false

namespace StructuredLog.Config

inductive FileState where
  | missing
  | unreadable (reason : String)
  | text (content : String)
deriving DecidableEq, Repr

abbrev Files := String → FileState

structure Loaded where
  events : List Diagnostic
  result : Except Error Settings

def Settings.decode? (format : Format) (content : String) : Option Settings :=
  match format with
  | .toml => (Toml.read? content).bind (Codec.settings Toml.view)
  | .yaml => (Yaml.read? content).bind (Codec.settings Yaml.view)
  | .json => (Document.read? content).bind (Codec.settings Document.view)

namespace Loaded

def ofText (format : Format) (content : String) : Loaded :=
  match Settings.decode? format content with
  | some settings => ⟨[.parsed format], .ok settings⟩
  | none => ⟨[], .error (.unreadable format "")⟩

-- A path has to lead somewhere before its format matters.
def ofFile (files : Files) (path : String) : Loaded :=
  let read : Loaded := match files path with
    | .missing => ⟨[], .error (.fileNotFound path)⟩
    | state =>
        match Format.ofPath path, state with
        | .error e, _ => ⟨[], .error e⟩
        | .ok format, .text content => ofText format content
        | .ok _, .unreadable reason => ⟨[], .error (.io reason)⟩
        | .ok _, .missing => ⟨[], .error (.fileNotFound path)⟩
  { read with events := .loading path :: read.events }

def overridden (env : Diagnostics.Environment) (l : Loaded) : Loaded :=
  match l.result with
  | .error _ => l
  | .ok settings =>
      match applyOverrides env settings with
      | (none, settings) => { l with result := .ok settings }
      | (some e, _) => { l with result := .error e }

def validated (l : Loaded)
    (check : String → Except Diagnostics.Error Unit := Diagnostics.Settings.checkFilter) : Loaded :=
  match l.result with
  | .error _ => l
  | .ok settings =>
      match settings.validateBy check with
      | .ok () => { l with events := l.events ++ [.validated] }
      | .error e => { l with result := .error e }

end Loaded

end StructuredLog.Config
