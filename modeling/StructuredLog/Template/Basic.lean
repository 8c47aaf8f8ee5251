import StructuredLog.Json.Basic
import StructuredLog.Template.Position

set_option autoImplicit false

namespace StructuredLog.Template

inductive Kind where
  | literal
  | argument
deriving DecidableEq, Repr

structure Element where
  kind : Kind
  value : String
  location : Location
deriving DecidableEq, Repr

structure Piece where
  kind : Kind
  text : String
deriving DecidableEq, Repr

def joined (pieces : List Piece) : String := String.join (pieces.map Piece.text)

inductive Fault where
  | unclosed
  | empty
  | malformed
deriving DecidableEq, Repr

namespace Fault

def name : Fault → String
  | .unclosed => "expect_argument_closing_brace"
  | .empty => "empty_argument"
  | .malformed => "malformed_argument"

def describe : Fault → String
  | .unclosed => "expected a closing brace for argument"
  | .empty => "argument is empty"
  | .malformed => "argument is malformed"

end Fault

structure ParseError where
  fault : Fault
  template : String
  location : Location
deriving DecidableEq, Repr

def ParseError.message (e : ParseError) : String :=
  e.fault.describe ++ " at " ++ e.location.text

def coerce : Json → String
  | .string s => s
  | value => value.compact

def resolve (properties : Properties) (name : String) : String :=
  match properties.find? name with
  | none => name
  | some .null => name
  | some value => coerce value

-- Values beyond the last part are left out.
def splice : List String → List Json → String
  | [], _ => ""
  | part :: parts, [] => part ++ splice parts []
  | part :: parts, value :: values => part ++ coerce value ++ splice parts values

end StructuredLog.Template
