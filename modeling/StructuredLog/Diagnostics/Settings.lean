import StructuredLog.Diagnostics.Filter

set_option autoImplicit false

namespace StructuredLog.Diagnostics

open Text

inductive Format where
  | pretty
  | compact
  | json
deriving DecidableEq, Repr

@[ext] structure Settings where
  format : Format
  filter : Option String
  ansi : Bool
  timestamps : Bool
  targets : Bool
  output : Stream
deriving DecidableEq, Repr

inductive Error where
  | invalidFilter (filter : String) (fault : FilterFault)
  | unknownFormat (name : String)
  | unknownOutput (name : String)
  | alreadyInstalled
deriving DecidableEq, Repr

def Error.message : Error → String
  | .invalidFilter filter fault =>
      "invalid diagnostics filter '" ++ filter ++ "': " ++ fault.message
  | .unknownFormat name =>
      "unknown diagnostics format '" ++ name ++ "' (expected pretty, compact or json)"
  | .unknownOutput name =>
      "unknown diagnostics output '" ++ name ++ "' (expected stderr or stdout)"
  | .alreadyInstalled => "a global diagnostics subscriber is already installed"

namespace Format

def name : Format → String
  | .pretty => "pretty"
  | .compact => "compact"
  | .json => "json"

def all : List Format := [.pretty, .compact, .json]

def ofName? (s : String) : Option Format := all.find? fun f => f.name == s

-- Only ASCII letters occur in the names, and no other letter has one of them as its small form.
def parse (text : String) : Except Error Format :=
  match ofName? (asciiLower (trimmed text)) with
  | some f => .ok f
  | none => .error (.unknownFormat text)

end Format

def streamName : Stream → String
  | .stdout => "stdout"
  | .stderr => "stderr"

def streamOfName? (s : String) : Option Stream :=
  [Stream.stderr, .stdout].find? fun o => streamName o == s

def parseStream (text : String) : Except Error Stream :=
  match streamOfName? (asciiLower (trimmed text)) with
  | some o => .ok o
  | none => .error (.unknownOutput text)

abbrev Environment := String → Option String

def variableNames : List String := ["QUILL_DIAGNOSTICS", "RUST_LOG"]

namespace Settings

def standard : Settings := ⟨.compact, none, true, true, true, .stderr⟩

def effectiveFilter (s : Settings) (env : Environment) : String :=
  match s.filter with
  | some filter => filter
  | none =>
      match variableNames.findSome? fun name => (env name).filter fun v => !allBlank v with
      | some v => v
      | none => "warn"

def directives (s : Settings) (env : Environment) (filters : FilterReader := Filter.read) :
    Except Error (Callsite → Bool) :=
  let filter := s.effectiveFilter env
  match filters filter with
  | .ok allowed => .ok allowed
  | .error fault => .error (.invalidFilter filter fault)

def install (installed : Bool) (s : Settings) (env : Environment)
    (filters : FilterReader := Filter.read) : Except Error (Callsite → Bool) := do
  let allowed ← s.directives env filters
  if installed then throw .alreadyInstalled
  return allowed

def checkFilterBy (filters : FilterReader) (filter : String) : Except Error Unit :=
  match filters filter with
  | .ok _ => .ok ()
  | .error fault => .error (.invalidFilter filter fault)

def checkFilter (filter : String) : Except Error Unit := checkFilterBy Filter.read filter

end Settings

end StructuredLog.Diagnostics
