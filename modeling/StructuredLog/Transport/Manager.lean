import StructuredLog.Transport.Send

set_option autoImplicit false

namespace StructuredLog

-- Managers refer to transports by place, so that enabling one shows through all of them.
abbrev Pool := List Transport

structure TransportRef where
  id : String
  slot : Nat
deriving DecidableEq, Repr

structure Manager where
  refs : List TransportRef
deriving DecidableEq, Repr

namespace Manager

def empty : Manager := ⟨[]⟩

def ids (m : Manager) : List String := m.refs.map TransportRef.id

def size (m : Manager) : Nat := m.refs.length

def put (r : TransportRef) : List TransportRef → List TransportRef
  | [] => [r]
  | x :: xs => if x.id = r.id then r :: xs else x :: put r xs

def drop (id : String) : List TransportRef → List TransportRef
  | [] => []
  | x :: xs => if x.id = id then xs else x :: drop id xs

def add (r : TransportRef) (m : Manager) : Manager := ⟨put r m.refs⟩

def extend (rs : List TransportRef) (m : Manager) : Manager :=
  rs.foldl (fun m r => m.add r) m

def ofList (rs : List TransportRef) : Manager := empty.extend rs

def get? (id : String) (m : Manager) : Option TransportRef := m.refs.find? fun r => r.id == id

def remove (id : String) (m : Manager) : Option TransportRef × Manager :=
  (m.get? id, ⟨drop id m.refs⟩)

def setEnabled (id : String) (enabled : Bool) (m : Manager) (pool : Pool) : Bool × Pool :=
  match m.get? id with
  | some r => (true, pool.modify r.slot fun t => { t with enabled := enabled })
  | none => (false, pool)

def setAllEnabled (enabled : Bool) (m : Manager) (pool : Pool) : Pool :=
  m.refs.foldl (fun pool r => pool.modify r.slot fun t => { t with enabled := enabled }) pool

def isEnabled (pool : Pool) (r : TransportRef) : Bool :=
  (pool[r.slot]?.map Transport.enabled).getD false

def sendTo (platform : Platform) (slot : Nat) : Act Event (Pool × Record) Delivery := fun s =>
  match s.1[slot]? with
  | none => ⟨.returned (.ok ()), s, []⟩
  | some t =>
      match Transport.send platform (t, s.2) with
      | ⟨outcome, (t, r), events⟩ => ⟨outcome, (s.1.set slot t, r), events⟩

-- Each failure is reported; the first is returned.
def dispatchAll (platform : Platform) : List TransportRef → Act Event (Pool × Record) Delivery
  | [] => pure (.ok ())
  | r :: rest => do
      let (pool, record) ← Act.get
      if isEnabled pool r then
        match ← sendTo platform r.slot with
        | .ok () => dispatchAll platform rest
        | .error e =>
            Act.emit (.diagnostic (.deliveryFailed r.id record.header.level e))
            let _ ← dispatchAll platform rest
            return .error e
      else dispatchAll platform rest

def dispatch (platform : Platform) (m : Manager) : Act Event (Pool × Record) Delivery :=
  dispatchAll platform m.refs

end Manager

end StructuredLog
