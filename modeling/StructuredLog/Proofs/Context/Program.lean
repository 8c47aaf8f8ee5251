import StructuredLog.Logger

set_option autoImplicit false

namespace StructuredLog

-- What code does next may depend on all it has read.
inductive Program where
  | done (value : Json)
  | panic (message : String)
  | set (key : String) (value : Json) (next : Program)
  | get (key : String) (next : Option Json → Program)
  | store (next : Option Properties → Program)
  | log (l : Logger) (level : Level) (source : Source) (heard : Nat → Record → Program)
      (next : Delivery → Program)
  | scope (context : Properties) (body : Program) (next : Json → Program)
  | caught (body : Program) (next : Outcome Json → Program)

-- The engine and the history of one context: the scopes after each change and around each scope.
structure Walk where
  engine : Engine
  entered : Nat
  seen : List (Nat × Scopes)
  ends : List (Nat × Scopes)
  visits : List (Scopes × Scopes)

namespace Walk

instance : Host Walk := ⟨Walk.engine, fun e w => { w with engine := e }⟩

def now (place : Nat) (w : Walk) : Scopes := w.engine.scopesAt place

def noted (place : Nat) (w : Walk) : Walk := { w with seen := w.seen ++ [(w.entered, w.now place)] }

def start (place : Nat) (e : Engine) : Walk := noted place ⟨e, 0, [], [], []⟩

def opened (place : Nat) (w : Walk) : Walk := noted place { w with entered := w.entered + 1 }

def ended (place id : Nat) (w : Walk) : Walk := { w with ends := w.ends ++ [(id, w.now place)] }

def closed (place : Nat) (before : Scopes) (w : Walk) : Walk :=
  noted place { w with entered := w.entered - 1, visits := w.visits ++ [(before, w.now place)] }

-- The end of a scope is noted right before the scope is left.
def visit (place : Nat) (context : Properties) (body : Act Event Walk Json) :
    Act Event Walk Json := do
  let before := (← Act.get).now place
  let inside : Act Event Walk Json := do
    Act.modify (opened place)
    body
  Act.ensure
    (Engine.inScope place context (Act.ensure inside (Act.modify (ended place before.next))))
    (Act.modify (closed place before))

def listen (run : Record → Act Event Walk Json) : Act Event (Walk × Record) Unit := do
  let r := (← Act.get).2
  let _ ← Act.within Prod.fst (fun w s => (w, s.2)) (run r)
  return ()

end Walk

namespace Program

def run (place : Nat) : Program → Act Event Walk Json
  | .done value => pure value
  | .panic message => Act.panic message
  | .set key value next => do
      Engine.onScopes place (Act.modify (Scopes.set key value))
      Act.modify (Walk.noted place)
      run place next
  | .get key next => do
      let w ← Act.get
      run place (next ((w.now place).get key))
  | .store next => do
      let w ← Act.get
      run place (next (w.now place).store)
  | .log l level source heard next => do
      let delivery ← l.log (fun n _ => Walk.listen fun r => run place (heard n r)) level source
      Act.modify (Walk.noted place)
      run place (next delivery)
  | .scope context body next => do
      let value ← Walk.visit place context (run place body)
      run place (next value)
  | .caught body next => do
      let outcome ← Act.attempt (run place body)
      run place (next outcome)

def walk (place : Nat) (p : Program) (e : Engine) : Walk := (p.run place (Walk.start place e)).state

end Program

end StructuredLog
