import StructuredLog.Text.Blank

set_option autoImplicit false

namespace StructuredLog

open Text

inductive Level where
  | trace
  | debug
  | info
  | warn
  | error
  | fatal
deriving DecidableEq, Repr

namespace Level

def all : List Level := [.trace, .debug, .info, .warn, .error, .fatal]

def rank : Level → Nat
  | .trace => 0
  | .debug => 1
  | .info => 2
  | .warn => 3
  | .error => 4
  | .fatal => 5

def name : Level → String
  | .trace => "trace"
  | .debug => "debug"
  | .info => "info"
  | .warn => "warn"
  | .error => "error"
  | .fatal => "fatal"

def tag : Level → String
  | .trace => "TRC"
  | .debug => "DBG"
  | .info => "INF"
  | .warn => "WRN"
  | .error => "ERR"
  | .fatal => "FTL"

def ofName? (s : String) : Option Level := all.find? fun l => l.name == s

def parse? (text : String) : Option Level :=
  let word := asciiLower (trimmed text)
  if word = "warning" then some .warn else ofName? word

def unknown (text : String) : String :=
  "unknown log level '" ++ text
    ++ "' (expected trace, debug, info, warn, error, fatal or off)"

end Level

abbrev Threshold := Option Level

namespace Threshold

def passes (threshold : Threshold) (level : Level) : Bool :=
  match threshold with
  | none => false
  | some lowest => lowest.rank ≤ level.rank

-- `off` and `none` let nothing pass; the inner option is the threshold.
def parse? (text : String) : Option Threshold :=
  let word := asciiLower (trimmed text)
  if word = "off" ∨ word = "none" then some none else (Level.parse? text).map some

end Threshold

inductive Severity where
  | trace
  | debug
  | info
  | warn
  | error
deriving DecidableEq, Repr

namespace Severity

def ofLevel : Level → Severity
  | .trace => .trace
  | .debug => .debug
  | .info => .info
  | .warn => .warn
  | .error => .error
  | .fatal => .error

def name : Severity → String
  | .trace => "TRACE"
  | .debug => "DEBUG"
  | .info => "INFO"
  | .warn => "WARN"
  | .error => "ERROR"

def rank : Severity → Nat
  | .trace => 0
  | .debug => 1
  | .info => 2
  | .warn => 3
  | .error => 4

end Severity

end StructuredLog
