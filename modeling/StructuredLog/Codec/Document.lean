import StructuredLog.Codec.View
import StructuredLog.Json.Document

set_option autoImplicit false

namespace StructuredLog.Document

open Number

def asText : Document → Option String
  | .string s => s
  | _ => none

def asFlag : Document → Option Bool
  | .bool b => some b
  | _ => none

def asNatural : Document → Option Nat
  | .number (some (.int i)) => unsigned? i
  | _ => none

def isNull : Document → Bool
  | .null => true
  | _ => false

def asConstant : Document → Option String
  | .string s => s
  | .object [(some name, .null)] => some name
  | _ => none

def asItems : Document → Option (List Document)
  | .array items => some items
  | _ => none

def asFields (names : List String) : Document → Option (List (Option Document))
  | .object fields =>
      if fields.all fun f => f.1.isSome then
        View.every (fun name => View.only (· == some name) fields) names
      else none
  | .array items => if items.length ≤ names.length then some (View.inOrder names items) else none
  | _ => none

def view : View Document :=
  ⟨asText, asFlag, asNatural, isNull, asConstant, asItems, asFields⟩

def isSound (limit : Nesting) (depth : Nat) (d : Document) : Bool := (d.value? limit depth).isSome

end StructuredLog.Document
