import StructuredLog.Config.Format
import StructuredLog.Record.Basic
import StructuredLog.Transport.Error

set_option autoImplicit false

namespace StructuredLog

open Template

inductive Stream where
  | stdout
  | stderr
deriving DecidableEq, Repr

inductive Diagnostic where
  | enteredScope (scope depth : Nat)
  | leftScope (scope : Nat)
  | parseFailed (error : ParseError)
  | deliveryFailed (transport : String) (level : Level) (error : TransportError)
  | attached (transport : String)
  | detached (transport : String)
  | loading (path : String)
  | parsed (format : Config.Format)
  | validated
  | emitting (level : Level) (transports : Nat)
  | forwarded (level : Level) (category : List String) (label : String) (properties : Properties)
      (text : String)

inductive FieldValue where
  | quoted (s : String)
  | shown (s : String)
  | number (n : Nat)
  | flag (b : Bool)

def FieldValue.toJson : FieldValue → Json
  | .quoted s => .string s
  | .shown s => .string s
  | .number n => .nat n
  | .flag b => .bool b

namespace Diagnostic

def severity : Diagnostic → Severity
  | .enteredScope .. | .leftScope _ => .trace
  | .parseFailed _ => .warn
  | .deliveryFailed .. => .error
  | .attached _ | .detached _ => .debug
  | .loading _ | .parsed _ | .validated => .debug
  | .emitting .. => .debug
  | .forwarded level .. => .ofLevel level

def target : Diagnostic → String
  | .enteredScope .. | .leftScope _ => "quill_core::context"
  | .parseFailed _ => "quill_core::record"
  | .deliveryFailed .. => "quill_core::transport"
  | .attached _ | .detached _ => "quill_core::logger"
  | .loading _ | .parsed _ | .validated => "quill_config::loader"
  | .emitting .. => "quill::commands::emit"
  | .forwarded .. => "quill"

def message : Diagnostic → String
  | .enteredScope .. => "entered log context"
  | .leftScope _ => "left log context"
  | .parseFailed _ => "log message template failed to parse"
  | .deliveryFailed .. => "transport failed to deliver log record"
  | .attached _ => "transport attached"
  | .detached _ => "transport detached"
  | .loading _ => "loading configuration"
  | .parsed _ => "configuration parsed"
  | .validated => "configuration validated"
  | .emitting .. => "emitting log record"
  | .forwarded _ _ _ _ text => text

def fields : Diagnostic → List (String × FieldValue)
  | .enteredScope scope depth => [("scope", .number scope), ("depth", .number depth)]
  | .leftScope scope => [("scope", .number scope)]
  | .parseFailed e =>
      [("kind", .quoted e.fault.name), ("template", .shown e.template), ("error", .shown e.message)]
  | .deliveryFailed id level error =>
      [("transport", .quoted id), ("level", .shown level.name), ("error", .shown error.message)]
  | .attached id | .detached id => [("transport", .quoted id)]
  | .loading path => [("path", .shown path)]
  | .parsed format => [("format", .quoted format.name)]
  | .validated => []
  | .emitting level transports => [("level", .shown level.name), ("transports", .number transports)]
  | .forwarded level category label properties _ =>
      [("category", .shown (".".intercalate category)), ("prefix", .quoted label),
       ("properties", .shown (Json.object properties).compact),
       ("fatal", .flag (level == .fatal))]

end Diagnostic

structure Callsite where
  severity : Severity
  target : String
  fields : List String

def Diagnostic.callsite (d : Diagnostic) : Callsite :=
  ⟨d.severity, d.target, d.fields.map Prod.fst⟩

def Callsite.forwarded (level : Level) : Callsite :=
  ⟨.ofLevel level, "quill", ["category", "prefix", "properties", "fatal"]⟩

@[simp] theorem callsite_forwarded (level : Level) (category : List String) (label : String)
    (properties : Properties) (text : String) :
    (Diagnostic.forwarded level category label properties text).callsite = .forwarded level := rfl

inductive Event where
  | diagnostic (d : Diagnostic)
  | deferredCalled
  -- whether its tag was used before and after its formatting calls
  | lazyCalled (before after : Bool)
  | notified (listener : String) (level : Level) (reads : List Answer)
  | acted (action : String) (result : Json)
  | wrote (stream : Stream) (line : String)
  | answered (result : Json)

end StructuredLog
