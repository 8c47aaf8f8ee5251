set_option autoImplicit false

namespace StructuredLog.Text

abbrev Style := List String

namespace Style

def dim : Style := ["2"]
def bold : Style := ["1"]
def italic : Style := ["3"]
def red : Style := ["31"]
def green : Style := ["32"]
def yellow : Style := ["33"]
def blue : Style := ["34"]
def magenta : Style := ["35"]
def cyan : Style := ["36"]
def whiteOnRed : Style := ["37", "41"]

def sequence (parameter : String) : String := "\x1b[" ++ parameter ++ "m"

def paint (colors : Bool) (style : Style) (text : String) : String :=
  if colors then String.join (style.map sequence) ++ text ++ sequence "0" else text

end Style

end StructuredLog.Text
