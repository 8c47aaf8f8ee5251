import StructuredLog.Context
import StructuredLog.Subscription
import StructuredLog.Transport.Manager

set_option autoImplicit false

namespace StructuredLog

-- A logger and its children share all but their categories and their subscribers.
structure Family where
  label : String
  enabled : Bool
  threshold : Threshold
  transports : Manager
  scopes : Nat
  source : Nat

structure Logger where
  category : List String
  family : Nat
  registry : Nat
deriving DecidableEq, Repr

-- Everything that loggers share and change, by place.
structure Engine where
  transports : Pool
  scopes : List Scopes
  sources : List IdSource
  registries : List Registry
  families : List Family
  clock : Nat
  platform : Platform

def Engine.empty (clock : Nat) (platform : Platform := .standard) : Engine :=
  ⟨[], [], [], [], [], clock, platform⟩

class Host (σ : Type) where
  engine : σ → Engine
  setEngine : Engine → σ → σ

instance : Host Engine := ⟨id, fun e _ => e⟩

structure LoggerOptions where
  label : String
  enabled : Bool
  category : List String
  transports : List TransportRef
  threshold : Threshold

def LoggerOptions.standard : LoggerOptions := ⟨"[Logger]", true, [], [], some .debug⟩

namespace Engine

def addTransport (t : Transport) (e : Engine) : TransportRef × Engine :=
  (⟨t.id, e.transports.length⟩, { e with transports := e.transports ++ [t] })

def addScopes (e : Engine) : Nat × Engine :=
  (e.scopes.length, { e with scopes := e.scopes ++ [.none] })

def addSource (source : IdSource) (e : Engine) : Nat × Engine :=
  (e.sources.length, { e with sources := e.sources ++ [source] })

def addRegistry (source : Nat) (e : Engine) : Nat × Engine :=
  (e.registries.length, { e with registries := e.registries ++ [⟨[], source⟩] })

def modifyRegistry (place : Nat) (f : Registry → Registry) (e : Engine) : Engine :=
  { e with registries := e.registries.modify place f }

def modifyFamily (place : Nat) (f : Family → Family) (e : Engine) : Engine :=
  { e with families := e.families.modify place f }

def modifyScopes (place : Nat) (f : Scopes → Scopes) (e : Engine) : Engine :=
  { e with scopes := e.scopes.modify place f }

def scopesAt (place : Nat) (e : Engine) : Scopes := (e.scopes[place]?).getD .none

def putScopes (place : Nat) (scopes : Scopes) (e : Engine) : Engine :=
  e.modifyScopes place fun _ => scopes

def onScopes {σ α : Type} [Host σ] (place : Nat) (m : Act Event Scopes α) : Act Event σ α :=
  Act.within (fun s => (Host.engine s).scopesAt place)
    (fun scopes s => Host.setEngine ((Host.engine s).putScopes place scopes) s) m

def inScope {σ α : Type} [Host σ] (place : Nat) (context : Properties) (body : Act Event σ α) :
    Act Event σ α :=
  Scopes.inScope (fun s => (Host.engine s).scopesAt place)
    (fun scopes s => Host.setEngine ((Host.engine s).putScopes place scopes) s) context body

def drawId (source : Nat) (e : Engine) : String × Engine :=
  match e.sources[source]? with
  | none => ("", e)
  | some s => (s.draw.1, { e with sources := e.sources.set source s.draw.2 })

def subscribe (registry listener : Nat) (e : Engine) : Subscription × Engine :=
  match e.registries[registry]? with
  | none => (⟨registry, ""⟩, e)
  | some r =>
      let (id, e) := e.drawId r.source
      (⟨registry, id⟩, e.modifyRegistry registry (.register ⟨id, listener⟩))

def unsubscribe (s : Subscription) (e : Engine) : Engine :=
  e.modifyRegistry s.registry (.unregister s.id)

def isActive (s : Subscription) (e : Engine) : Bool :=
  (e.registries[s.registry]?.map (·.isActive s.id)).getD false

def dropRegistry (registry : Nat) (e : Engine) : Engine := e.modifyRegistry registry .clear

def newLogger (options : LoggerOptions) (source : IdSource) (e : Engine) : Logger × Engine :=
  let (source, e) := e.addSource source
  let (scopes, e) := e.addScopes
  let (registry, e) := e.addRegistry source
  let family : Family := ⟨options.label, options.enabled, options.threshold,
    .ofList options.transports, scopes, source⟩
  (⟨options.category, e.families.length, registry⟩, { e with families := e.families ++ [family] })

end Engine

namespace Logger

-- A logger made by the engine always has a family.
def family? (l : Logger) (e : Engine) : Option Family := e.families[l.family]?

def child (name : String) (l : Logger) (e : Engine) : Logger × Engine :=
  let source := ((l.family? e).map Family.source).getD 0
  let (registry, e) := e.addRegistry source
  (⟨l.category ++ [name], l.family, registry⟩, e)

def accepts (level : Level) (l : Logger) (e : Engine) : Bool :=
  ((l.family? e).map fun f => f.threshold.passes level).getD false

def setEnabled (enabled : Bool) (l : Logger) (e : Engine) : Engine :=
  e.modifyFamily l.family fun f => { f with enabled := enabled }

def setLabel (label : String) (l : Logger) (e : Engine) : Engine :=
  e.modifyFamily l.family fun f => { f with label := label }

def setThreshold (threshold : Threshold) (l : Logger) (e : Engine) : Engine :=
  e.modifyFamily l.family fun f => { f with threshold := threshold }

def setTransports (m : Manager) (l : Logger) (e : Engine) : Engine :=
  e.modifyFamily l.family fun f => { f with transports := m }

def transports (l : Logger) (e : Engine) : Manager :=
  ((l.family? e).map Family.transports).getD .empty

def attach (t : TransportRef) (l : Logger) : Act Event Engine Unit := do
  Act.emit (.diagnostic (.attached t.id))
  Act.modify fun e => l.setTransports ((l.transports e).add t) e

def detach (id : String) (l : Logger) : Act Event Engine (Option TransportRef) := do
  let (removed, rest) := (l.transports (← Act.get)).remove id
  Act.modify (l.setTransports rest)
  if removed.isSome then Act.emit (.diagnostic (.detached id))
  return removed

def detachAll (l : Logger) (e : Engine) : Engine := l.setTransports .empty e

def ambient (f : Family) (e : Engine) : Properties :=
  ((e.scopes[f.scopes]?).map Scopes.ambient).getD []

variable {σ : Type} [Host σ]

def deliver (platform : Platform) (m : Manager) : Act Event (σ × Record) Delivery :=
  Act.within (fun s => ((Host.engine s.1).transports, s.2))
    (fun p s => (Host.setEngine { Host.engine s.1 with transports := p.1 } s.1, p.2))
    (m.dispatch platform)

def notify (call : Nat → Level → Act Event (σ × Record) Unit) (registry : Nat) (level : Level) :
    Act Event (σ × Record) Unit := do
  let e := Host.engine (← Act.get).1
  notifyAll call level ((e.registries[registry]?.map Registry.subscribers).getD [])

def log (call : Nat → Level → Act Event (σ × Record) Unit) (l : Logger) (level : Level)
    (source : Source) : Act Event σ Delivery := do
  let e := Host.engine (← Act.get)
  match l.family? e with
  | none => return .ok ()
  | some family =>
      if family.enabled then
        let header := ⟨level, l.category, family.label, e.clock⟩
        let (record, events) := Record.build header (ambient family e) source
        Act.emitAll events
        Act.withLocal record do
          let delivery ←
            if family.threshold.passes level then deliver e.platform family.transports
            else pure (.ok ())
          notify call l.registry level
          return delivery
      else return .ok ()

end Logger

end StructuredLog
