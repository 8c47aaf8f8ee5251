import StructuredLog.Json.Basic

set_option autoImplicit false

namespace StructuredLog

open Number

-- Values as they were written. A number that is too large and a string with half of a surrogate
-- pair are well formed but have no value.
inductive Document where
  | null
  | bool (value : Bool)
  | number (value : Option Number)
  | string (value : Option String)
  | array (items : List Document)
  | object (fields : List (Option String × Document))

namespace Document

mutual
def ofJson : Json → Document
  | .null => .null
  | .bool b => .bool b
  | .number n => .number (some n)
  | .string s => .string (some s)
  | .array items => .array (ofItems items)
  | .object fields => .object (ofFields fields)
def ofItems : List Json → List Document
  | [] => []
  | item :: rest => ofJson item :: ofItems rest
def ofFields : List (String × Json) → List (Option String × Document)
  | [] => []
  | (key, value) :: rest => (some key, ofJson value) :: ofFields rest
end

def maxDepth : Nat := 127

-- Texts have a limit; a value that is there already has none.
abbrev Nesting := Option Nat

def textNesting : Nesting := some maxDepth

def Nesting.allows (limit : Nesting) (depth : Nat) : Bool := limit.all fun most => depth < most

mutual
-- A repeated name keeps its last value.
def value? (limit : Nesting) (depth : Nat) : Document → Option Json
  | .null => some .null
  | .bool b => some (.bool b)
  | .number n => n.map .number
  | .string s => s.map .string
  | .array items =>
      if limit.allows depth then (values? limit (depth + 1) items).map .array else none
  | .object fields =>
      if limit.allows depth then
        (fields? limit (depth + 1) fields).map fun fs => .object (Properties.ofFields fs)
      else none
def values? (limit : Nesting) (depth : Nat) : List Document → Option (List Json)
  | [] => some []
  | item :: rest =>
      match value? limit depth item, values? limit depth rest with
      | some v, some vs => some (v :: vs)
      | _, _ => none
def fields? (limit : Nesting) (depth : Nat) :
    List (Option String × Document) → Option (List (String × Json))
  | [] => some []
  | (key, value) :: rest =>
      match key, value? limit depth value, fields? limit depth rest with
      | some k, some v, some vs => some ((k, v) :: vs)
      | _, _, _ => none
end

def toJson? (depth : Nat) (d : Document) : Option Json := d.value? textNesting depth

end Document

end StructuredLog
