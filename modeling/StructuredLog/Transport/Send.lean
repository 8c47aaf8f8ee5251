import StructuredLog.Transport.Console
import StructuredLog.Transport.Memory

set_option autoImplicit false

namespace StructuredLog

abbrev Delivery := Except TransportError Unit

namespace Transport

def readRecord {α : Type} (reading : Record.Reading α) : Act Event (Transport × Record) α :=
  Act.within Prod.snd (fun r s => (s.1, r)) reading

def setSink (sink : Sink) : Act Event (Transport × Record) Unit :=
  Act.modify fun s => ({ s.1 with sink := sink }, s.2)

-- The lock is held while a snapshot is added, so a panic in there poisons the buffer.
def store (id : String) (capacity : Option Nat) (kept : List Snapshot) (poisoned : Bool)
    (snapshot : Snapshot) : Act Event (Transport × Record) Delivery :=
  if poisoned then return .error (.rejected id Memory.poisoned)
  else match Memory.push? capacity kept snapshot with
    | some kept => do
        setSink (.memory capacity kept false)
        return .ok ()
    | none => do
        setSink (.memory capacity (kept ++ [snapshot]) true)
        Act.panic Memory.outOfRange

theorem store_pushed (id : String) (capacity : Option Nat) (kept : List Snapshot)
    (snapshot : Snapshot) :
    store id capacity kept false snapshot = do
      setSink (.memory capacity (Memory.push capacity kept snapshot) false)
      return .ok () := by
  rw [store, Memory.push_in_range]
  rfl

-- The properties are read in any case, the text only for somebody who listens.
def forward (traced : Level → Bool) : Record.Reading (Option Diagnostic) := do
  let header := (← Act.get).header
  let properties ← Record.readProperties
  if traced header.level then
    let text ← Record.readText
    return some (.forwarded header.level header.category header.label properties text)
  else return none

-- A transport reads all it needs before it stores or writes anything.
def send (platform : Platform) : Act Event (Transport × Record) Delivery := do
  let t := (← Act.get).1
  match t.sink with
  | .memory capacity kept poisoned =>
      let snapshot ← readRecord Record.readSnapshot
      store t.id capacity kept poisoned snapshot
  | .console c =>
      let line ← readRecord (c.line platform.zone)
      let (result, device, events) := Console.write platform.refusal t.id (line ++ "\n") c.device
      setSink (.console { c with device := device })
      Act.emitAll events
      return result
  | .forwarding =>
      let diagnostic ← readRecord (forward platform.traced)
      Act.emitAll (diagnostic.map Event.diagnostic).toList
      return .ok ()
  | .failing reason attempts =>
      setSink (.failing reason (attempts + 1))
      return .error (.rejected t.id reason)

end Transport

end StructuredLog
