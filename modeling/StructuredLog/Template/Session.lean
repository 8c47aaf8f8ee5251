import StructuredLog.Template.Parser

set_option autoImplicit false

namespace StructuredLog.Template

-- A text has to be released before the next one; an empty text does not count.
structure Session where
  position : Position
deriving DecidableEq, Repr

namespace Session

def fresh : Session := ⟨.start⟩

inductive Reply where
  | refused
  | parsed (result : Except ParseError (List Element))

def refusal : String := "parser can only be used once; call release() before reusing it"

def parse (s : Session) (template : String) (properties : Properties) : Reply × Session :=
  if s.position.offset ≠ 0 then (.refused, s)
  else
    (.parsed (parseFrom s.position template properties), ⟨stopFrom s.position template⟩)

def parseParts (s : Session) (parts : List String) (values : List Json) : Reply × Session :=
  s.parse (splice parts values) []

def release (_ : Session) : Session := fresh

end Session

end StructuredLog.Template
