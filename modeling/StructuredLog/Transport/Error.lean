set_option autoImplicit false

namespace StructuredLog

inductive TransportError where
  | rejected (id reason : String)
  | io (text : String)
  | other (text : String)
deriving DecidableEq, Repr

namespace TransportError

def message : TransportError → String
  | .rejected id reason => "transport '" ++ id ++ "' rejected record: " ++ reason
  | .io text => "I/O error: " ++ text
  | .other text => text

def isRejected : TransportError → Bool
  | .rejected .. => true
  | _ => false

def isIo : TransportError → Bool
  | .io _ => true
  | _ => false

end TransportError

inductive IoFault where
  | brokenPipe
  | other (text : String)
deriving DecidableEq, Repr

def IoFault.report (id : String) : IoFault → TransportError
  | .brokenPipe => .rejected id "output stream closed"
  | .other text => .io text

end StructuredLog
