import StructuredLog.Event

set_option autoImplicit false

namespace StructuredLog

-- The number of the next scope, the live scopes in the order they were entered, and the numbers of
-- the entered scopes, innermost first.
structure Scopes where
  next : Nat
  stored : List (Nat × Properties)
  active : List Nat

namespace Scopes

def none : Scopes := ⟨0, [], []⟩

def depth (s : Scopes) : Nat := s.active.length

def find? (id : Nat) (s : Scopes) : Option Properties :=
  (s.stored.find? fun row => row.1 == id).map Prod.snd

def store (s : Scopes) : Option Properties := s.active.head?.bind s.find?

def ambient (s : Scopes) : Properties := s.store.getD []

def get (key : String) (s : Scopes) : Option Json := s.store.bind (Properties.find? key)

def set (key : String) (value : Json) (s : Scopes) : Scopes :=
  match s.active with
  | [] => s
  | id :: _ =>
      { s with stored := s.stored.map fun row =>
          if row.1 = id then (row.1, Properties.insert key value row.2) else row }

def merged (explicit : Properties) (s : Scopes) : Properties := s.ambient.overlay explicit

def entered (context : Properties) (s : Scopes) : Scopes :=
  ⟨s.next + 1, s.stored ++ [(s.next, context)], s.next :: s.active⟩

def left (id : Nat) (s : Scopes) : Scopes :=
  { s with
    active := if s.active.head? = some id then s.active.tail else s.active.filter (· != id)
    stored := s.stored.filter fun row => row.1 != id }

def enter (context : Properties) : Act Event Scopes Nat := do
  let s ← Act.get
  let inner := s.entered context
  Act.set inner
  Act.emit (.diagnostic (.enteredScope s.next inner.depth))
  return s.next

def leave (id : Nat) : Act Event Scopes Unit := do
  Act.modify (left id)
  Act.emit (.diagnostic (.leftScope id))

def inScope {τ α : Type} (part : τ → Scopes) (put : Scopes → τ → τ) (context : Properties)
    (body : Act Event τ α) : Act Event τ α := do
  let id ← Act.within part put (enter context)
  Act.ensure body (Act.within part put (leave id))

end Scopes

end StructuredLog
