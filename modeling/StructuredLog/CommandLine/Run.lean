import StructuredLog.Codec.Message
import StructuredLog.CommandLine.Outside
import StructuredLog.Config.Build
import StructuredLog.Config.Load
import StructuredLog.Diagnostics.Line
import StructuredLog.Template.Printer

set_option autoImplicit false

namespace StructuredLog.CommandLine

open Text Template

structure Surroundings where
  env : Diagnostics.Environment
  files : Config.Files
  micros : Nat

-- No stream is taken for a terminal, so text has colors only when a variable asks for them.
def colorsByDefault (env : Diagnostics.Environment) : Bool :=
  match env "CLICOLOR_FORCE" with
  | some value => value != "0"
  | none => false

def ColorChoice.colors (env : Diagnostics.Environment) : ColorChoice → Bool
  | .always => true
  | .never => false
  | .auto => colorsByDefault env

structure Ended where
  done : List Write
  prints : List Write
  error : Option (List String)

-- A print to a stream that takes nothing panics and ends the run.
def printed (refusal : Stream → Option IoFault) (code : Nat) : List Write → Result
  | [] => ⟨code, []⟩
  | w :: rest =>
      if (refusal w.stream).isSome then ⟨101, []⟩
      else
        let r := printed refusal code rest
        ⟨r.code, w :: r.writes⟩

def Ended.result (refusal : Stream → Option IoFault) (colors : Bool) (e : Ended) : Result :=
  let r := match e.error with
    | none => printed refusal 0 e.prints
    | some chain =>
        printed refusal 1 (e.prints ++ [failure colors (": ".intercalate chain)])
  ⟨r.code, e.done ++ r.writes⟩

def configChain (e : Config.Error) : List String :=
  e.message :: match e with
    | .io detail => [detail]
    | .unreadable _ detail => [detail]
    | .diagnostics error => [error.message]
    | _ => []

abbrev Reporter := Option (Diagnostics.Settings × (Callsite → Bool))

-- Verbose runs write from debug on; quiet runs write none and read no filter.
def reporter (filters : Diagnostics.FilterReader) (env : Diagnostics.Environment) (g : Globals)
    (colors : Bool) (s : Diagnostics.Settings) : Except (List String) Reporter :=
  if g.quiet then .ok none
  else
    let s := if g.verbose then { s with filter := some "debug" } else s
    let s := { s with ansi := s.ansi && colors }
    match s.install false env filters with
    | .ok allowed => .ok (some (s, allowed))
    | .error e => .error ["invalid diagnostics settings", e.message]

def Reporter.allows (site : Callsite) : Reporter → Bool
  | none => false
  | some (_, allowed) => allowed site

def Reporter.writes (refusal : Stream → Option IoFault) (micros : Nat) (d : Diagnostic) :
    Reporter → List Write
  | none => []
  | some (s, allowed) =>
      if allowed d.callsite && (refusal s.output).isNone then
        [⟨s.output, Diagnostics.written s micros d⟩]
      else []

def eventWrites (refusal : Stream → Option IoFault) (micros : Nat) (r : Reporter) :
    Event → List Write
  | .diagnostic d => r.writes refusal micros d
  | .wrote stream line => [⟨stream, line⟩]
  | _ => []

def render (colors : Bool) (template : String) (properties : Properties) (asPieces : Bool) :
    Ended :=
  match parse template properties with
  | .error e => ⟨[], parseFailure colors template e, some ["failed to render template"]⟩
  | .ok elements =>
      let text :=
        if asPieces then (Json.array ((print elements).map (·.toJson))).pretty 0
        else printText elements
      ⟨[], [⟨.stdout, text ++ "\n"⟩], none⟩

def check (colors quiet : Bool) (template : String) : Ended :=
  match parse template [] with
  | .error e => ⟨[], parseFailure colors template e, some ["template is invalid"]⟩
  | .ok elements =>
      let n := elements.length
      let noun := if n = 1 then " element" else " elements"
      let text := "template is valid (" ++ toString n ++ noun ++ ")"
      ⟨[], if quiet then [] else [success colors text], none⟩

def consoleSettings : Config.Settings :=
  { Config.Settings.standard with transports := [.standard] }

def emitSettings (filters : Diagnostics.FilterReader) (s : Surroundings) (config : Option String) :
    Except (List String) Config.Settings :=
  let check := Diagnostics.Settings.checkFilterBy filters
  match config with
  | some path =>
      match (((Config.Loaded.ofFile s.files path).overridden s.env).validated check).result with
      | .ok settings => .ok settings
      | .error e => .error (("failed to load configuration from " ++ path) :: configChain e)
  | none =>
      match (((Config.Loaded.mk [] (.ok consoleSettings)).overridden s.env).validated check).result
      with
      | .ok settings => .ok settings
      | .error e => .error (configChain e)

def descendants (category : Option String) (l : Logger) (e : Engine) : Logger × Engine :=
  let segments := ((category.map (pieces '.')).getD []).filter fun segment => !segment.isEmpty
  segments.foldl (fun (l, e) segment => l.child segment e) (l, e)

def noListeners (_ : Nat) (_ : Level) : Act Event (Engine × Record) Unit := pure ()

def emit (o : Outside) (s : Surroundings) (g : Globals) (colors : Bool) (template : String)
    (properties : Properties) (level : Level) (config category : Option String) :
    Except (List String) Ended := do
  let settings ← emitSettings o.filters s config
  let reporter ← reporter o.filters s.env g colors settings.diagnostics
  let platform : Platform := ⟨o.zone, fun l => reporter.allows (.forwarded l), o.refusal⟩
  match settings.newLogger colors (.drawn o.ids 0) (.empty (s.micros / 1000) platform) with
  | .error e => .error ("failed to build logger from configuration" :: configChain e)
  | .ok (root, engine) =>
      let (logger, engine) := descendants category root engine
      let started := Event.diagnostic (.emitting level (logger.transports engine).size)
      let ran := logger.log noListeners level (.text template properties) engine
      let done := (started :: ran.events).flatMap (eventWrites o.refusal s.micros reporter)
      return match ran.outcome with
        | .returned (.error e) => ⟨done, [], some ["failed to deliver log record", e.message]⟩
        | _ => ⟨done, [], none⟩

def perform (o : Outside) (s : Surroundings) (i : Invocation) : Result :=
  let colors := i.globals.color.colors s.env
  let standing := reporter o.filters s.env i.globals colors .standard
  let ended : Except (List String) Ended := match i.command with
    | .render template properties asPieces =>
        standing.map fun _ => render colors template properties asPieces
    | .check template => standing.map fun _ => check colors i.globals.quiet template
    | .emit template properties level config category =>
        emit o s i.globals colors template properties level config category
    | .completions shell => .ok ⟨[], [⟨.stdout, o.script shell⟩], none⟩
  match ended with
  | .ok e => e.result o.refusal colors
  | .error chain => Ended.result o.refusal colors ⟨[], [], some chain⟩

def run (s : Surroundings) (arguments : List String) (o : Outside := .standard) : Result :=
  match o.arguments arguments with
  | .ok i => perform o s i
  | .error result => result

def configFile? (arguments : List String) : Option String :=
  match read arguments with
  | .ok ⟨_, .emit _ _ _ config _⟩ => config
  | _ => none

end StructuredLog.CommandLine
