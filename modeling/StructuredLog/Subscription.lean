import StructuredLog.Event
import StructuredLog.Ids

set_option autoImplicit false

namespace StructuredLog

structure Subscriber where
  id : String
  listener : Nat
deriving DecidableEq, Repr

structure Registry where
  subscribers : List Subscriber
  source : Nat
deriving DecidableEq, Repr

structure Subscription where
  registry : Nat
  id : String
deriving DecidableEq, Repr

namespace Registry

def ids (r : Registry) : List String := r.subscribers.map Subscriber.id

def register (s : Subscriber) (r : Registry) : Registry :=
  { r with subscribers := r.subscribers ++ [s] }

def unregister (id : String) (r : Registry) : Registry :=
  { r with subscribers := r.subscribers.filter fun s => s.id != id }

def clear (r : Registry) : Registry := { r with subscribers := [] }

def isActive (id : String) (r : Registry) : Bool := r.subscribers.any fun s => s.id == id

end Registry

-- Calls listeners in order, as they were when the notification began. A panic ends it.
def notifyAll {σ : Type} (call : Nat → Level → Act Event σ Unit) (level : Level) :
    List Subscriber → Act Event σ Unit
  | [] => pure ()
  | s :: rest => do
      call s.listener level
      notifyAll call level rest

end StructuredLog
