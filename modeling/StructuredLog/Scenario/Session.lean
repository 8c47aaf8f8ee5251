import StructuredLog.Scenario.Step

set_option autoImplicit false

namespace StructuredLog.Scenario

abbrev Names (α : Type) := List (String × α)

namespace Names

variable {α : Type}

def find? (name : String) : Names α → Option α
  | [] => none
  | (n, a) :: rest => if n = name then some a else find? name rest

def put (name : String) (value : α) : Names α → Names α
  | [] => [(name, value)]
  | (n, a) :: rest => if n = name then (name, value) :: rest else (n, a) :: put name value rest

def erase (name : String) (names : Names α) : Names α := names.filter fun row => row.1 != name

end Names

structure Listener where
  name : String
  reads : List Question
  actions : List (String × Step)
  panic : Option String
  called : Bool

structure Session where
  engine : Engine
  loggers : Names Logger
  transports : Names TransportRef
  managers : Names Manager
  registries : Names Nat
  subscriptions : Names Subscription
  records : Names Record
  scopes : Names Nat
  listeners : List Listener

instance : Host Session := ⟨Session.engine, fun e s => { s with engine := e }⟩

def clock : Nat := 1728000000000

def Session.empty : Session := ⟨.empty clock, [], [], [], [], [], [], [], []⟩

abbrev Run (α : Type) : Type := Act Event Session α

namespace Session

def require {α : Type} (kind name : String) : Option α → Run α
  | some a => pure a
  | none => Act.panic ("no " ++ kind ++ " is named '" ++ name ++ "'")

def platform : Run Platform := return (← Act.get).engine.platform

def logger (name : String) : Run Logger := do
  require "logger" name ((← Act.get).loggers.find? name)

def family (l : Logger) : Run Family := do
  require "family" "" (l.family? (← Act.get).engine)

def transportRef (name : String) : Run TransportRef := do
  require "transport" name ((← Act.get).transports.find? name)

def transportRefs : List String → Run (List TransportRef)
  | [] => pure []
  | name :: rest => do
      let ref ← transportRef name
      return ref :: (← transportRefs rest)

def transport (name : String) : Run Transport := do
  let ref ← transportRef name
  require "transport" name ((← Act.get).engine.transports[ref.slot]?)

def record (name : String) : Run Record := do
  require "record" name ((← Act.get).records.find? name)

def subscription (name : String) : Run Subscription := do
  require "subscription" name ((← Act.get).subscriptions.find? name)

def audience : Audience → Run Nat
  | .registry name => do require "registry" name ((← Act.get).registries.find? name)
  | .logger name => return (← logger name).registry

def registryAt (place : Nat) : Run Registry := do
  require "registry" "" ((← Act.get).engine.registries[place]?)

def place : Place → Run Nat
  | .logger name => do return (← family (← logger name)).scopes
  | .alone name => do
      let s ← Act.get
      match s.scopes.find? name with
      | some place => pure place
      | none =>
          let (place, engine) := s.engine.addScopes
          Act.set { s with engine := engine, scopes := s.scopes.put name place }
          pure place

def scopesAt (place : Nat) : Run Scopes := do
  return (← Act.get).engine.scopesAt place

def onEngine {α : Type} (m : Act Event Engine α) : Run α :=
  Act.within Session.engine (fun e s => { s with engine := e }) m

def changeEngine (f : Engine → Engine) : Run Unit :=
  Act.modify fun s => { s with engine := f s.engine }

def fromEngine {α : Type} (f : Engine → α × Engine) : Run α := do
  let s ← Act.get
  let (a, engine) := f s.engine
  Act.set { s with engine := engine }
  return a

def onRecord {α : Type} (name : String) (m : Record.Reading α) : Run α := do
  let r ← record name
  Act.within (fun s => (s.records.find? name).getD r)
    (fun r s => { s with records := s.records.put name r }) m

def onTransport {α : Type} (slot : Nat) (t : Transport) (name : String)
    (m : Act Event (Transport × Record) α) : Run α := do
  let r ← record name
  Act.within (fun s => ((s.engine.transports[slot]?).getD t, (s.records.find? name).getD r))
    (fun p s => { s with
      engine := { s.engine with transports := s.engine.transports.set slot p.1 }
      records := s.records.put name p.2 }) m

def keepLogger (name : String) (l : Logger) : Run Unit :=
  Act.modify fun s =>
    let engine := match s.loggers.find? name with
      | some old => s.engine.dropRegistry old.registry
      | none => s.engine
    { s with engine := engine, loggers := s.loggers.put name l }

def dropLogger (name : String) : Run Bool := do
  let s ← Act.get
  match s.loggers.find? name with
  | none => return false
  | some l =>
      Act.set { s with
        engine := s.engine.dropRegistry l.registry
        loggers := s.loggers.erase name }
      return true

def dropRegistry (name : String) : Run Bool := do
  let s ← Act.get
  match s.registries.find? name with
  | none => return false
  | some place =>
      Act.set { s with
        engine := s.engine.dropRegistry place
        registries := s.registries.erase name }
      return true

def keepRegistry (name : String) (source : IdSource) : Run Nat := do
  let _ ← dropRegistry name
  let s ← Act.get
  let (source, engine) := s.engine.addSource source
  let (place, engine) := engine.addRegistry source
  Act.set { s with engine := engine, registries := s.registries.put name place }
  return place

end Session

end StructuredLog.Scenario
