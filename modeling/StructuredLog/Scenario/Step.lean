import StructuredLog.Logger

set_option autoImplicit false

namespace StructuredLog.Scenario

inductive Place where
  | logger (name : String)
  | alone (name : String)
deriving DecidableEq, Repr

inductive Audience where
  | registry (name : String)
  | logger (name : String)
deriving DecidableEq, Repr

inductive Managed where
  | kept (name : String)
  | copyOf (logger : String)
deriving DecidableEq, Repr

structure LoggerPlan where
  config : Option (Config.Format × String)
  label : Option String
  enabled : Option Bool
  category : Option (List String)
  threshold : Option Threshold
  transports : List String
  ids : String

inductive ManagerCall where
  | list
  | add (transport : String)
  | extend (transports : List String)
  | collect (transports : List String)
  | remove (id : String)
  | get (id : String)
  | setEnabled (id : String) (enabled : Bool)
  | setAllEnabled (enabled : Bool)
  | release
  | dispatch (record : String)

inductive MemoryCall where
  | records
  | messages
  | last
  | size
  | atLevel (level : Level)
  | clear

inductive Inspected where
  | logger (name : String)
  | scopes (name : String)
  | manager (name : String)
  | registry (name : String)
  | record (name : String)
  | console (name : String)
  | source (source : Source)
  | stream (id : String) (stream : Stream)
  | options (label : String) (threshold : Threshold) (transports : List String)

inductive Step where
  | newLogger (name : String) (plan : LoggerPlan)
  | standardLogger (name : String)
  | child (logger name : String) (kept : String)
  | state (logger : String)
  | setEnabled (logger : String) (enabled : Bool)
  | setLabel (logger label : String)
  | setThreshold (logger : String) (threshold : Threshold)
  | attach (logger transport : String)
  | detach (logger id : String)
  | detachAll (logger : String)
  | accepted (logger : String)
  | dropLogger (logger : String)
  | log (logger : String) (level : Level) (source : Source)
  | newTransport (name : String) (transport : Transport)
  | setTransport (name : String) (enabled : Bool)
  | lines (name : String)
  | attempts (name : String)
  | memory (name : String) (call : MemoryCall)
  | send (name record : String)
  | segments (name record : String)
  | render (name record : String)
  | manager (managed : Managed) (call : ManagerCall)
  | newRegistry (name ids : String)
  | randomRegistry (name : String)
  | dropRegistry (name : String)
  | subscribe (name : String) (audience : Audience) (reads : List Question)
      (actions : List (String × Step)) (panic : Option String)
  | unsubscribe (name : String)
  | active (name : String)
  | subscribers (audience : Audience)
  | clearSubscribers (audience : Audience)
  | notify (registry record : String) (level : Level)
  | set (place : Place) (key : String) (value : Json)
  | get (place : Place) (key : String)
  | store (place : Place)
  | scopes (place : Place)
  | merged (place : Place) (properties : Properties)
  | record (name : String) (header : Header) (source : Source) (place : Place)
  | read (record : String) (questions : List Question)
  | inspect (what : Inspected)

inductive Block where
  | step (step : Step)
  | scope (place : Place) (context : Properties) (body : List Block)
  | caught (body : List Block)
  | panic (message : String)

end StructuredLog.Scenario
