import StructuredLog.Scenario.Perform

set_option autoImplicit false

namespace StructuredLog.Scenario

open Codec

mutual
def Step.listeners : Step → Nat
  | .subscribe _ _ _ actions _ => 1 + actionListeners actions
  | _ => 0
def actionListeners : List (String × Step) → Nat
  | [] => 0
  | (_, step) :: rest => step.listeners + actionListeners rest
end

mutual
def Block.listeners : Block → Nat
  | .step step => step.listeners
  | .scope _ _ body => blockListeners body
  | .caught body => blockListeners body
  | .panic _ => 0
def blockListeners : List Block → Nat
  | [] => 0
  | b :: rest => b.listeners + blockListeners rest
end

def answered (result : Json) : Run Unit := Act.emit (.answered result)

mutual
def runBlock (depth : Nat) : Block → Run Unit
  | .step step => do answered (outcome (← (perform depth step).attempt))
  | .scope whose context body => do
      let i ← Session.place whose
      Engine.inScope i context do
        answered (.string "enter")
        runBlocks depth body
      answered (.string "leave")
  | .caught body => do
      match ← (runBlocks depth body).attempt with
      | .returned () => answered (.string "no panic")
      | .panicked message => answered (panicked message)
  | .panic message => Act.panic message
def runBlocks (depth : Nat) : List Block → Run Unit
  | [] => pure ()
  | b :: rest => do
      runBlock depth b
      runBlocks depth rest
end

def runScript (script : List Block) : Run Unit := do
  match ← (runBlocks (blockListeners script + 1) script).attempt with
  | .returned () => pure ()
  | .panicked message => answered (panicked message)

structure Entry where
  result : Json
  events : List Event

def entries (seen : List Event) : List Event → List Entry
  | [] => []
  | .answered result :: rest => ⟨result, seen.reverse⟩ :: entries [] rest
  | event :: rest => entries (event :: seen) rest

def transcript (script : List Block) : List Entry :=
  entries [] (runScript script .empty).events

def Entry.toJson (e : Entry) : Json :=
  .object [("r", e.result), ("events", .array (e.events.filterMap Event.toJson?))]

end StructuredLog.Scenario
