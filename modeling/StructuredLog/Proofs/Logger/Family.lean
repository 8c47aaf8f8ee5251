import StructuredLog.Logger
import StructuredLog.Proofs.Record.Settled

set_option autoImplicit false

namespace StructuredLog

-- Members and subscriptions are numbered as they were made, the root being 0.
inductive FamilyStep where
  | log (who : Nat) (level : Level) (message : Eager)
  | setThreshold (who : Nat) (threshold : Threshold)
  | setEnabled (who : Nat) (enabled : Bool)
  | setLabel (who : Nat) (label : String)
  | flag (slot : Nat) (enabled : Bool)
  | switch (who : Nat) (id : String) (enabled : Bool)
  | switchAll (who : Nat) (enabled : Bool)
  | child (who : Nat) (name : String)
  | subscribe (who : Nat)
  | unsubscribe (handle : Nat)

def FamilyStep.subscribes : FamilyStep → Bool
  | .subscribe _ => true
  | _ => false

structure Kin where
  engine : Engine
  members : List Logger
  handles : List Subscription
  heard : List (Nat × Level × Record)

namespace Kin

instance : Host Kin := ⟨Kin.engine, fun e k => { k with engine := e }⟩

def found (options : LoggerOptions) (source : IdSource) (e : Engine) : Kin :=
  let (root, e) := e.newLogger options source
  ⟨e, [root], [], []⟩

def hear (n : Nat) (level : Level) : Act Event (Kin × Record) Unit :=
  Act.modify fun s => ({ s.1 with heard := s.1.heard ++ [(n, level, s.2)] }, s.2)

def onMember (who : Nat) (f : Logger → Kin → Kin) (k : Kin) : Kin :=
  match k.members[who]? with
  | none => k
  | some l => f l k

def onEngine (f : Engine → Engine) (k : Kin) : Kin := { k with engine := f k.engine }

def setPool (f : Pool → Pool) (k : Kin) : Kin :=
  k.onEngine fun e => { e with transports := f e.transports }

def changed : FamilyStep → Kin → Kin
  | .log .. => id
  | .setThreshold who threshold => onMember who fun l => onEngine (l.setThreshold threshold)
  | .setEnabled who enabled => onMember who fun l => onEngine (l.setEnabled enabled)
  | .setLabel who label => onMember who fun l => onEngine (l.setLabel label)
  | .flag slot enabled => setPool (List.modify · slot fun t => { t with enabled := enabled })
  | .switch who id enabled => onMember who fun l k =>
      k.setPool fun pool => ((l.transports k.engine).setEnabled id enabled pool).2
  | .switchAll who enabled => onMember who fun l k =>
      k.setPool ((l.transports k.engine).setAllEnabled enabled)
  | .child who name => onMember who fun l k =>
      let (c, e) := l.child name k.engine
      { k with engine := e, members := k.members ++ [c] }
  | .subscribe who => onMember who fun l k =>
      let (s, e) := k.engine.subscribe l.registry k.handles.length
      { k with engine := e, handles := k.handles ++ [s] }
  | .unsubscribe handle => fun k =>
      match k.handles[handle]? with
      | none => k
      | some s => k.onEngine (Engine.unsubscribe s)

def perform : FamilyStep → Act Event Kin Unit
  | .log who level message => do
      match (← Act.get).members[who]? with
      | none => pure ()
      | some l =>
          let _ ← l.log hear level message.source
          pure ()
  | step => Act.modify (changed step)

def run : List FamilyStep → Act Event Kin Unit
  | [] => pure ()
  | step :: rest => do
      perform step
      run rest

end Kin

-- The gates as the steps alone tell them.
structure Gates where
  label : String
  enabled : Bool
  threshold : Threshold
  flag : Bool
  categories : List (List String)
  subscribers : List (Nat × Bool)

namespace Gates

def initial (options : LoggerOptions) (flag : Bool) : Gates :=
  ⟨options.label, options.enabled, options.threshold, flag, [options.category], []⟩

def onMember (who : Nat) (f : Gates → Gates) (g : Gates) : Gates :=
  if who < g.categories.length then f g else g

def after (watched : TransportRef) (g : Gates) : FamilyStep → Gates
  | .log .. => g
  | .setThreshold who threshold => g.onMember who fun g => { g with threshold := threshold }
  | .setEnabled who enabled => g.onMember who fun g => { g with enabled := enabled }
  | .setLabel who label => g.onMember who fun g => { g with label := label }
  | .flag slot enabled => if slot = watched.slot then { g with flag := enabled } else g
  | .switch who id enabled =>
      if id = watched.id then g.onMember who fun g => { g with flag := enabled } else g
  | .switchAll who enabled => g.onMember who fun g => { g with flag := enabled }
  | .child who name =>
      match g.categories[who]? with
      | none => g
      | some category => { g with categories := g.categories ++ [category ++ [name]] }
  | .subscribe who =>
      g.onMember who fun g => { g with subscribers := g.subscribers ++ [(who, true)] }
  | .unsubscribe handle =>
      { g with subscribers := g.subscribers.modify handle fun s => (s.1, false) }

def afterAll (watched : TransportRef) (g : Gates) (steps : List FamilyStep) : Gates :=
  steps.foldl (after watched) g

def sent (clock : Nat) (g : Gates) : FamilyStep → List Snapshot
  | .log who level message =>
      match g.categories[who]? with
      | none => []
      | some category =>
          if g.enabled && g.flag && g.threshold.any fun lowest => lowest.rank ≤ level.rank then
            [message.snapshot ⟨level, category, g.label, clock⟩ []]
          else []
  | _ => []

def told (clock n : Nat) (g : Gates) : FamilyStep → List (Level × Record)
  | .log who level message =>
      match g.categories[who]? with
      | none => []
      | some category =>
          if g.enabled && g.subscribers[n]? == some (who, true) then
            [(level, message.record ⟨level, category, g.label, clock⟩ [])]
          else []
  | _ => []

def allSent (watched : TransportRef) (clock : Nat) : Gates → List FamilyStep → List Snapshot
  | _, [] => []
  | g, step :: rest => g.sent clock step ++ allSent watched clock (g.after watched step) rest

def allTold (watched : TransportRef) (clock n : Nat) : Gates → List FamilyStep → List (Level × Record)
  | _, [] => []
  | g, step :: rest => g.told clock n step ++ allTold watched clock n (g.after watched step) rest

end Gates

end StructuredLog
