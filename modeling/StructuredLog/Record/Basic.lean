import StructuredLog.Act
import StructuredLog.Level
import StructuredLog.Template.Basic

set_option autoImplicit false

namespace StructuredLog

open Template

structure TemplateParts where
  parts : List String
  values : List Json

def TemplateParts.splice (t : TemplateParts) : String := Template.splice t.parts t.values

inductive RawMessage where
  | text (message : String)
  | template (parts : TemplateParts)

def RawMessage.display : RawMessage → String
  | .text message => message
  | .template parts => parts.splice

structure Header where
  level : Level
  category : List String
  label : String
  timestamp : Nat
deriving DecidableEq, Repr

-- Callbacks are data: which calls they make and how they end.
inductive Ending where
  | panics (message : String)
  | pieces (pieces : List Piece)
  | call (index : Nat)
  | lastCall

structure MessageCallback where
  calls : List TemplateParts
  ending : Ending

abbrev PropertyCallback := Outcome Properties

inductive Source where
  | text (message : String) (properties : Properties)
  | deferred (message : String) (properties : PropertyCallback)
  | lazily (message : MessageCallback)
  | template (parts : TemplateParts)

-- A value computed at most once: its computation is gone once it has begun.
inductive Deferred (κ α : Type) where
  | pending (computation : κ)
  | ready (value : α)
  | spent

def Deferred.isReady {κ α : Type} : Deferred κ α → Bool
  | .ready _ => true
  | _ => false

structure PendingProperties where
  ambient : Properties
  callback : PropertyCallback

abbrev LazyMessage := Option (List Piece × TemplateParts)

inductive Body where
  | printed (pieces : List Piece) (raw : RawMessage)
  | templated (template : String) (pieces : Option (List Piece))
  | lazily (message : Deferred MessageCallback LazyMessage)

structure Record where
  header : Header
  properties : Deferred PendingProperties Properties
  body : Body

structure Snapshot where
  level : Level
  category : List String
  label : String
  timestamp : Nat
  message : List Piece
  text : String
  raw : RawMessage
  properties : Properties

inductive Question where
  | text
  | message
  | raw
  | rawDisplay
  | properties
  | resolved
  | snapshot
  | level
  | category
  | label
  | timestamp
  | segments
deriving DecidableEq, Repr

inductive Answer where
  | text (s : String)
  | pieces (pieces : List Piece)
  | raw (raw : RawMessage)
  | properties (properties : Properties)
  | flag (b : Bool)
  | snapshot (s : Snapshot)
  | level (l : Level)
  | texts (ss : List String)
  | timestamp (n : Nat)
  | panicked (message : String)

end StructuredLog
