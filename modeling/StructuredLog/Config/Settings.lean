import StructuredLog.Diagnostics.Settings

set_option autoImplicit false

namespace StructuredLog.Config

open Text

@[ext] structure LoggerSettings where
  label : String
  enabled : Bool
  category : List String
  lowestLevel : String
deriving DecidableEq, Repr

def LoggerSettings.standard : LoggerSettings := ⟨"[Logger]", true, [], "debug"⟩

inductive TransportKind where
  | console
  | memory
  | tracing
deriving DecidableEq, Repr

namespace TransportKind

def all : List TransportKind := [.console, .memory, .tracing]

def name : TransportKind → String
  | .console => "console"
  | .memory => "memory"
  | .tracing => "tracing"

def ofName? (s : String) : Option TransportKind := all.find? fun k => k.name == s

end TransportKind

structure TransportSettings where
  kind : TransportKind
  id : String
  enabled : Bool
  target : Stream
  color : Option Bool
  capacity : Option Nat
deriving DecidableEq, Repr

def TransportSettings.standard : TransportSettings := ⟨.console, "", true, .stderr, none, none⟩

def TransportSettings.explicitId (t : TransportSettings) : Option String :=
  let id := trimmed t.id
  if id.isEmpty then none else some id

@[ext] structure Settings where
  logger : LoggerSettings
  transports : List TransportSettings
  diagnostics : Diagnostics.Settings
deriving DecidableEq, Repr

def Settings.standard : Settings := ⟨.standard, [], .standard⟩

inductive Error where
  | io (detail : String)
  | unreadable (format : Format) (detail : String)
  | unsupportedFormat (extension : String)
  | fileNotFound (path : String)
  | invalidPath (path : String)
  | badVariable (name value reason : String)
  | invalidValue (field reason : String)
  | missing (field : String)
  | conflict (text : String)
  | diagnostics (error : Diagnostics.Error)
deriving DecidableEq, Repr

namespace Error

def message : Error → String
  | .io detail => "IO error reading configuration file: " ++ detail
  | .unreadable format detail => "Failed to parse " ++ format.name ++ " configuration: " ++ detail
  | .unsupportedFormat extension =>
      "Unsupported configuration format: " ++ extension ++ ". Supported formats: toml, yaml, json"
  | .fileNotFound path => "Configuration file not found at path: " ++ path
  | .invalidPath path => "Invalid configuration path: " ++ path
  | .badVariable name value reason =>
      "Environment variable parsing error: " ++ name ++ "=" ++ value ++ ". " ++ reason
  | .invalidValue field reason =>
      "Invalid configuration value for field '" ++ field ++ "': " ++ reason
  | .missing field => "Missing required configuration field: " ++ field
  | .conflict text => "Conflicting configuration values: " ++ text
  | .diagnostics error => "Invalid diagnostics settings: " ++ error.message

def isValidation : Error → Bool
  | .invalidValue .. | .missing _ | .conflict _ | .diagnostics _ => true
  | _ => false

end Error

end StructuredLog.Config
