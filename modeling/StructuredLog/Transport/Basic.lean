import StructuredLog.Record.Read

set_option autoImplicit false

namespace StructuredLog

inductive LayoutPart where
  | levelUpper
  | text
  | category
  | raw
deriving DecidableEq, Repr

inductive Layout where
  | standard
  | custom (parts : List LayoutPart)
deriving DecidableEq, Repr

inductive WriterFailure where
  | onWrite (fault : IoFault)
  | onFlush (fault : IoFault)
deriving DecidableEq, Repr

inductive Device where
  | stream (stream : Stream)
  | writer (failure : Option WriterFailure) (lines pending : List String)
deriving DecidableEq, Repr

structure Console where
  colors : Bool
  layout : Layout
  device : Device
deriving DecidableEq, Repr

-- A buffer is poisoned once a panic has gone through its lock.
inductive Sink where
  | memory (capacity : Option Nat) (kept : List Snapshot) (poisoned : Bool)
  | console (console : Console)
  | forwarding
  | failing (reason : String) (attempts : Nat)

structure Transport where
  id : String
  enabled : Bool
  sink : Sink

end StructuredLog
