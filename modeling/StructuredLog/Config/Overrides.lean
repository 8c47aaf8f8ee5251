import StructuredLog.Config.Settings

set_option autoImplicit false

namespace StructuredLog.Config

open Text Diagnostics

def levelVariable : String := "QUILL_LOG_LEVEL"
def labelVariable : String := "QUILL_PREFIX"
def enabledVariable : String := "QUILL_ENABLED"
def categoryVariable : String := "QUILL_CATEGORY"
def formatVariable : String := "QUILL_DIAGNOSTICS_FORMAT"
def filterVariable : String := "QUILL_DIAGNOSTICS_FILTER"

def effective (env : Environment) (name : String) : Option String :=
  (env name).filter fun value => !allBlank value

def parseFlag (text : String) : Option Bool :=
  let word := asciiLower (trimmed text)
  if ["true", "1", "yes", "on"].contains word then some true
  else if ["false", "0", "no", "off"].contains word then some false
  else none

def categorySegments (text : String) : List String :=
  ((pieces '.' text).map trimmed).filter fun segment => !segment.isEmpty

structure Override where
  name : String
  apply : String → Settings → Except Error Settings

def overrideLevel : Override :=
  ⟨levelVariable, fun value s =>
    match Threshold.parse? value with
    | some _ => .ok { s with logger := { s.logger with lowestLevel := trimmed value } }
    | none => .error (.badVariable levelVariable value (Level.unknown value))⟩

def overrideLabel : Override :=
  ⟨labelVariable, fun value s => .ok { s with logger := { s.logger with label := value } }⟩

def overrideEnabled : Override :=
  ⟨enabledVariable, fun value s =>
    match parseFlag value with
    | some flag => .ok { s with logger := { s.logger with enabled := flag } }
    | none =>
        .error (.badVariable enabledVariable value
          "expected boolean (true/false, yes/no, 1/0, on/off)")⟩

def overrideCategory : Override :=
  ⟨categoryVariable, fun value s =>
    .ok { s with logger := { s.logger with category := categorySegments value } }⟩

def overrideFormat : Override :=
  ⟨formatVariable, fun value s =>
    match Diagnostics.Format.parse value with
    | .ok format => .ok { s with diagnostics := { s.diagnostics with format := format } }
    | .error _ => .error (.badVariable formatVariable value "expected pretty, compact or json")⟩

def overrideFilter : Override :=
  ⟨filterVariable, fun value s =>
    .ok { s with diagnostics := { s.diagnostics with filter := some value } }⟩

def overrides : List Override :=
  [overrideLevel, overrideLabel, overrideEnabled, overrideCategory, overrideFormat, overrideFilter]

-- The settings keep the overrides applied before the first that fails.
def applyAll (env : Environment) : List Override → Settings → Option Error × Settings
  | [], s => (none, s)
  | o :: rest, s =>
      match effective env o.name with
      | none => applyAll env rest s
      | some value =>
          match o.apply value s with
          | .ok s => applyAll env rest s
          | .error e => (some e, s)

def applyOverrides (env : Environment) (s : Settings) : Option Error × Settings :=
  applyAll env overrides s

end StructuredLog.Config
