import StructuredLog.Json.Basic

set_option autoImplicit false

namespace StructuredLog.Json

def field? (name : String) : Json → Option Json
  | .object fields => Properties.find? name fields
  | _ => none

def field (name : String) (j : Json) : Json := (j.field? name).getD .null

def has (name : String) (j : Json) : Bool := (j.field? name).isSome

def text? : Json → Option String
  | .string s => some s
  | _ => none

def flag? : Json → Option Bool
  | .bool b => some b
  | _ => none

def natural? : Json → Option Nat
  | .number (.int i) => if 0 ≤ i then some i.toNat else none
  | _ => none

def items : Json → List Json
  | .array items => items
  | _ => []

def properties : Json → Properties
  | .object fields => fields
  | _ => []

def textAt? (name : String) (j : Json) : Option String := (j.field? name).bind text?

def textAt (name : String) (j : Json) : String := (j.textAt? name).getD ""

def flagAt? (name : String) (j : Json) : Option Bool := (j.field? name).bind flag?

def itemsAt (name : String) (j : Json) : List Json := (j.field name).items

def textsAt (name : String) (j : Json) : List String :=
  (j.itemsAt name).map fun item => item.text?.getD ""

def propertiesAt (name : String) (j : Json) : Properties := (j.field name).properties

end StructuredLog.Json
