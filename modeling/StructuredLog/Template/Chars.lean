import StructuredLog.Text.Blank

set_option autoImplicit false

namespace StructuredLog.Template

open Text

-- The code points with the property Pattern_White_Space.
def spaceRanges : Ranges :=
  [(0x09, 0x0D), (0x20, 0x20), (0x85, 0x85), (0x200E, 0x200F), (0x2028, 0x2029)]

def syntaxRanges : Ranges :=
  [(0x21, 0x2F), (0x3A, 0x40), (0x5B, 0x5E), (0x60, 0x60), (0x7B, 0x7E), (0xA1, 0xA7), (0xA9, 0xA9),
   (0xAB, 0xAC), (0xAE, 0xAE), (0xB0, 0xB1), (0xB6, 0xB6), (0xBB, 0xBB), (0xBF, 0xBF), (0xD7, 0xD7),
   (0xF7, 0xF7), (0x2010, 0x2027), (0x2030, 0x203E), (0x2041, 0x2053), (0x2055, 0x205E),
   (0x2190, 0x245F), (0x2500, 0x2775), (0x2794, 0x2BFF), (0x2E00, 0x2E7F), (0x3001, 0x3003),
   (0x3008, 0x3020), (0x3030, 0x3030), (0xFD3E, 0xFD3F), (0xFE45, 0xFE46)]

def isSpace (c : Char) : Bool := spaceRanges.has c

-- U+200E and U+200F are padding before a name, but belong to a name once it has begun.
def isNameChar (c : Char) : Bool := !isBlank c && !syntaxRanges.has c

def isBrace (c : Char) : Bool := c == '{' || c == '}'

theorem isNameChar_open : isNameChar '{' = false := by decide
theorem isNameChar_close : isNameChar '}' = false := by decide
theorem isNameChar_apostrophe : isNameChar '\'' = false := by decide
theorem isSpace_open : isSpace '{' = false := by decide
theorem isSpace_close : isSpace '}' = false := by decide

end StructuredLog.Template
