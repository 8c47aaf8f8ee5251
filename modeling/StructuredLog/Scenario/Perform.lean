import StructuredLog.Codec.Report
import StructuredLog.Config.Build
import StructuredLog.Config.Load
import StructuredLog.Inspect
import StructuredLog.Scenario.Session

set_option autoImplicit false

namespace StructuredLog.Scenario

open Session Codec

def pair (id : String) (enabled : Bool) : Json := .array [.string id, .bool enabled]

def pairs (pool : Pool) (m : Manager) : Json :=
  .array (m.refs.map fun r => pair r.id (Manager.isEnabled pool r))

def delivery : Delivery → Json
  | .ok () => .string "ok"
  | .error e => e.toJson

def stateOf (l : Logger) : Run Json := do
  let f ← family l
  let registry ← registryAt l.registry
  let pool := (← Act.get).engine.transports
  return .object [("prefix", .string f.label), ("category", .ofTexts l.category),
    ("enabled", .bool f.enabled), ("lowest_level", threshold f.threshold),
    ("transports", pairs pool f.transports), ("subscribers", .ofTexts registry.ids)]

def loadPlan : Option (Config.Format × String) → Run (Except Config.Error Config.Settings)
  | none => return .ok ⟨.standard, [], .standard⟩
  | some (format, content) => do
      let loaded := (Config.Loaded.ofText format content).validated
      Act.emitAll (loaded.events.map .diagnostic)
      return loaded.result

def transportIds : IdSource := .counter "t"

def keepTransports : List Transport → Run (List TransportRef)
  | [] => pure []
  | t :: rest => do
      let ref ← fromEngine (Engine.addTransport t)
      Act.modify fun s => { s with transports := s.transports.put t.id ref }
      return ref :: (← keepTransports rest)

def newLogger (name : String) (plan : LoggerPlan) : Run Json := do
  match ← loadPlan plan.config with
  | .error e => return e.toJson
  | .ok settings =>
      let built ← keepTransports (Config.buildTransports false transportIds settings.transports).1
      let others ← transportRefs plan.transports
      match settings.options (built ++ others) with
      | .error e => return e.toJson
      | .ok o =>
          let options : LoggerOptions :=
            { o with
              label := plan.label.getD o.label
              enabled := plan.enabled.getD o.enabled
              category := plan.category.getD o.category
              threshold := plan.threshold.getD o.threshold }
          let l ← fromEngine (Engine.newLogger options (.counter plan.ids))
          keepLogger name l
          stateOf l

def standardLogger (name : String) : Run Json := do
  let l ← fromEngine (Engine.newLogger .standard (.random 0))
  keepLogger name l
  stateOf l

def newChild (parent name kept : String) : Run Json := do
  let l ← logger parent
  let c ← fromEngine (l.child name)
  keepLogger kept c
  stateOf c

def change (name : String) (f : Logger → Engine → Engine) : Run Json := do
  let l ← logger name
  changeEngine (f l)
  stateOf l

def attach (name transport : String) : Run Json := do
  let l ← logger name
  let ref ← transportRef transport
  onEngine (l.attach ref)
  stateOf l

def detach (name id : String) : Run Json := do
  let l ← logger name
  let removed ← onEngine (l.detach id)
  return option (removed.map fun r => .string r.id)

def accepted (name : String) : Run Json := do
  let l ← logger name
  let e := (← Act.get).engine
  return .ofTexts ((Level.all.filter fun level => l.accepts level e).map Level.name)

def newTransport (name : String) (t : Transport) : Run Json := do
  let ref ← fromEngine (Engine.addTransport t)
  Act.modify fun s => { s with transports := s.transports.put name ref }
  return pair t.id t.enabled

def setTransport (name : String) (enabled : Bool) : Run Json := do
  let ref ← transportRef name
  changeEngine fun e =>
    { e with transports := e.transports.modify ref.slot fun t => { t with enabled := enabled } }
  return pair ref.id enabled

def lines (name : String) : Run Json := do
  match (← transport name).sink with
  | .console ⟨_, _, .writer _ lines _⟩ => return .ofTexts lines
  | _ => return .array []

def attempts (name : String) : Run Json := do
  match (← transport name).sink with
  | .failing _ n => return .nat n
  | _ => return .nat 0

def size (kept : List Snapshot) : Json := .array [.nat kept.length, .bool kept.isEmpty]

def memory (name : String) (call : MemoryCall) : Run Json := do
  let ref ← transportRef name
  let t ← transport name
  match t.sink with
  | .memory _ kept _ =>
      match call with
      | .records => return .array (kept.map Snapshot.report)
      | .messages => return .ofTexts (Memory.texts kept)
      | .last => return option ((Memory.last? kept).map Snapshot.report)
      | .size => return size kept
      | .atLevel level => return .ofTexts (Memory.texts (Memory.atLevel level kept))
      | .clear =>
          changeEngine fun e => { e with transports := e.transports.set ref.slot t.cleared }
          return size []
  | _ => Act.panic ("'" ++ name ++ "' keeps no records")

def timeless (r : Record) : Record :=
  if isPresent r.header.timestamp then { r with header := { r.header with timestamp := 0 } } else r

def readTimeless {α : Type} (m : Record.Reading α) : Record.Reading α :=
  Act.within timeless (fun read r => { read with header := r.header }) m

def ask (zone : Time.Zone) : Question → Record.Reading Answer
  | .segments => readTimeless (Record.ask zone .segments)
  | q => Record.ask zone q

def askEach (zone : Time.Zone) : List Question → Record.Reading (List Answer)
  | [] => pure []
  | q :: qs => do
      let answer ← match ← (ask zone q).attempt with
        | .returned a => pure a
        | .panicked message => pure (.panicked message)
      return answer :: (← askEach zone qs)

def send (name record : String) : Run Json := do
  let ref ← transportRef name
  let t ← transport name
  return delivery (← onTransport ref.slot t record (Transport.send (← platform)))

def segments (name record : String) : Run Json := do
  let t ← transport name
  return .ofTexts (← onRecord record (readTimeless (t.segments (← platform).zone)))

def render (name record : String) : Run Json := do
  match (← transport name).sink with
  | .console c =>
      let line ← onRecord record (readTimeless (c.line (← platform).zone))
      return .object [("line", .string line), ("colors", .bool c.colors)]
  | _ => Act.panic ("'" ++ name ++ "' writes no lines")

def managerOf : Managed → Run Manager
  | .kept name => return ((← Act.get).managers.find? name).getD .empty
  | .copyOf name => return (← family (← logger name)).transports

def keepManager (m : Manager) : Managed → Run Unit
  | .kept name => Act.modify fun s => { s with managers := s.managers.put name m }
  | .copyOf _ => pure ()

def changePool (f : Pool → Pool) : Run Unit :=
  changeEngine fun e => { e with transports := f e.transports }

def callManager (m : Manager) : ManagerCall → Run (Json × Manager)
  | .list => return (.null, m)
  | .add name => return (.null, m.add (← transportRef name))
  | .extend names => return (.null, m.extend (← transportRefs names))
  | .collect names => return (.null, .ofList (← transportRefs names))
  | .remove id =>
      let (removed, rest) := m.remove id
      return (option (removed.map fun r => .string r.id), rest)
  | .get id => do
      let pool := (← Act.get).engine.transports
      return (option ((m.get? id).map fun r => pair r.id (Manager.isEnabled pool r)), m)
  | .setEnabled id enabled => do
      let (known, pool) := m.setEnabled id enabled (← Act.get).engine.transports
      changePool fun _ => pool
      return (.bool known, m)
  | .setAllEnabled enabled => do
      changePool (m.setAllEnabled enabled)
      return (.null, m)
  | .release => return (.null, .empty)
  | .dispatch name => do
      let r ← record name
      let result ← Act.within
        (fun s : Session => (s.engine.transports, (s.records.find? name).getD r))
        (fun p s => { s with
          engine := { s.engine with transports := p.1 }
          records := s.records.put name p.2 }) (m.dispatch (← platform))
      return (delivery result, m)

def manager (managed : Managed) (call : ManagerCall) : Run Json := do
  let m ← managerOf managed
  let (result, m) ← callManager m call
  keepManager m managed
  let pool := (← Act.get).engine.transports
  return .object [("result", result), ("transports", pairs pool m), ("ids", .ofTexts m.ids),
    ("len", .nat m.size), ("empty", .bool (m.size == 0))]

def takeActions (act : Step → Run Json) : List (String × Step) → Run Unit
  | [] => pure ()
  | (word, step) :: rest => do
      let result ← (act step).attempt
      Act.emit (.acted word (outcome result))
      takeActions act rest

def firstCall (n : Nat) : Run Bool := do
  let s ← Act.get
  Act.set { s with listeners := s.listeners.modify n fun l => { l with called := true } }
  return (s.listeners[n]?.map fun l => !l.called).getD false

def hear {τ : Type} (act : Step → Run Json)
    (onRecord : Record.Reading (List Answer) → Act Event τ (List Answer))
    (onSession : {α : Type} → Run α → Act Event τ α) (n : Nat) (level : Level) :
    Act Event τ Unit := do
  match (← onSession Act.get).listeners[n]? with
  | none => pure ()
  | some l =>
      let answers ← onRecord (askEach (← onSession platform).zone l.reads)
      Act.emit (.notified l.name level answers)
      if ← onSession (firstCall n) then onSession (takeActions act l.actions)
      match l.panic with
      | some message => Act.panic message
      | none => pure ()

def hearLog (act : Step → Run Json) (n : Nat) (level : Level) :
    Act Event (Session × Record) Unit :=
  hear act (Act.within Prod.snd fun r s => (s.1, r))
    (fun m => Act.within Prod.fst (fun session s => (session, s.2)) m) n level

def hearNamed (act : Step → Run Json) (record : String) (n : Nat) (level : Level) : Run Unit :=
  hear act (Session.onRecord record) (fun m => m) n level

def log (act : Step → Run Json) (name : String) (level : Level) (source : Source) : Run Json := do
  let l ← logger name
  return delivery (← l.log (hearLog act) level source)

def notify (act : Step → Run Json) (registry name : String) (level : Level) : Run Json := do
  let r ← registryAt (← audience (.registry registry))
  let _ ← record name
  notifyAll (hearNamed act name) level r.subscribers
  return .null

def addListener (l : Listener) : Run Nat := do
  let s ← Act.get
  Act.set { s with listeners := s.listeners ++ [l] }
  return s.listeners.length

def subscribe (name : String) (whose : Audience) (reads : List Question)
    (actions : List (String × Step)) (panic : Option String) : Run Json := do
  let registry ← audience whose
  let n ← addListener ⟨name, reads, actions, panic, false⟩
  let subscription ← fromEngine (Engine.subscribe registry n)
  Act.modify fun s => { s with subscriptions := s.subscriptions.put name subscription }
  return .string subscription.id

def isActive (subscription : Subscription) : Run Bool := do
  return (← Act.get).engine.isActive subscription

def unsubscribe (name : String) : Run Json := do
  let s ← subscription name
  let before ← isActive s
  changeEngine (Engine.unsubscribe s)
  return .array [.string s.id, .bool before, .bool (← isActive s)]

def subscribers (whose : Audience) : Run Json := do
  let r ← registryAt (← audience whose)
  return .array [.ofTexts r.ids, .nat r.ids.length, .bool r.ids.isEmpty]

def randomRegistry (name : String) : Run Json := do
  let place ← keepRegistry name (.random 0)
  let first ← fromEngine (Engine.subscribe place 0)
  let second ← fromEngine (Engine.subscribe place 0)
  let r ← registryAt place
  changeEngine (Engine.dropRegistry place)
  return .object
    [("lengths", .array [.nat first.id.length, .nat second.id.length]),
     ("distinct", .bool (first.id != second.id)),
     ("listed", .bool (r.ids == [first.id, second.id]))]

def set (whose : Place) (key : String) (value : Json) : Run Json := do
  let i ← place whose
  Engine.onScopes i (Act.modify (Scopes.set key value))
  return option ((← scopesAt i).get key)

def scopes (s : Scopes) : Json :=
  .object
    [("contexts", .array (s.stored.map fun row => .array [.nat row.1, .object row.2])),
     ("depth", .nat s.depth), ("active", .bool s.store.isSome)]

def newRecord (name : String) (header : Header) (source : Source) (whose : Place) : Run Json := do
  let ambient := (← scopesAt (← place whose)).ambient
  let (r, events) := Record.build header ambient source
  Act.emitAll events
  Act.modify fun s => { s with records := s.records.put name r }
  return .object [("resolved", .bool r.isResolved)]

def read (name : String) (questions : List Question) : Run Json := do
  let answers ← Session.onRecord name (askEach (← platform).zone questions)
  return .array (answers.map Answer.toJson)

def inspect : Inspected → Run String
  | .logger name => do
      let l ← logger name
      return Inspect.logger l (← family l) (← registryAt l.registry)
  | .scopes name => do return Inspect.scopes (← scopesAt (← place (.alone name)))
  | .manager name => return Inspect.manager (← managerOf (.kept name))
  | .registry name => do return Inspect.registry (← registryAt (← audience (.registry name)))
  | .record name => return Inspect.record (← record name)
  | .console name => do
      let t ← transport name
      match t.sink with
      | .console c => return Inspect.console t.id t.enabled c
      | _ => Act.panic ("'" ++ name ++ "' writes no lines")
  | .source source => return Inspect.source source
  | .stream id stream => return Inspect.console id true ⟨true, .standard, .stream stream⟩
  | .options label threshold names => do
      let refs ← transportRefs names
      return Inspect.options ⟨label, true, [], refs, threshold⟩

def answer (act : Step → Run Json) : Step → Run Json
  | .newLogger name plan => newLogger name plan
  | .standardLogger name => standardLogger name
  | .child parent name kept => newChild parent name kept
  | .state name => do stateOf (← logger name)
  | .setEnabled name enabled => change name (Logger.setEnabled enabled)
  | .setLabel name label => change name (Logger.setLabel label)
  | .setThreshold name threshold => change name (Logger.setThreshold threshold)
  | .attach name transport => attach name transport
  | .detach name id => detach name id
  | .detachAll name => change name Logger.detachAll
  | .accepted name => accepted name
  | .dropLogger name => return .bool (← dropLogger name)
  | .log name level source => log act name level source
  | .newTransport name t => newTransport name t
  | .setTransport name enabled => setTransport name enabled
  | .lines name => lines name
  | .attempts name => attempts name
  | .memory name call => memory name call
  | .send name record => send name record
  | .segments name record => segments name record
  | .render name record => render name record
  | .manager managed call => manager managed call
  | .newRegistry name ids => do
      let _ ← keepRegistry name (.counter ids)
      return .null
  | .randomRegistry name => randomRegistry name
  | .dropRegistry name => return .bool (← dropRegistry name)
  | .subscribe name whose reads actions panic => subscribe name whose reads actions panic
  | .unsubscribe name => unsubscribe name
  | .active name => do return .bool (← isActive (← subscription name))
  | .subscribers whose => subscribers whose
  | .clearSubscribers whose => do
      changeEngine (Engine.modifyRegistry (← audience whose) Registry.clear)
      return .null
  | .notify registry record level => notify act registry record level
  | .set whose key value => set whose key value
  | .get whose key => do return found ((← scopesAt (← place whose)).get key)
  | .store whose => do return found ((← scopesAt (← place whose)).store.map .object)
  | .scopes whose => do return scopes (← scopesAt (← place whose))
  | .merged whose ps => do return .object ((← scopesAt (← place whose)).merged ps)
  | .record name header source whose => newRecord name header source whose
  | .read name questions => read name questions
  | .inspect what => return .string (← inspect what)

-- Listeners act once, so actions nest at most as deep as there are listeners.
def perform : Nat → Step → Run Json
  | 0, _ => Act.panic "actions nest too deeply"
  | depth + 1, step => answer (perform depth) step

end StructuredLog.Scenario
