import StructuredLog.Text.Ranges

set_option autoImplicit false

namespace StructuredLog.Text

def blankRanges : Ranges :=
  [(0x09, 0x0D), (0x20, 0x20), (0x85, 0x85), (0xA0, 0xA0), (0x1680, 0x1680), (0x2000, 0x200A),
   (0x2028, 0x2029), (0x202F, 0x202F), (0x205F, 0x205F), (0x3000, 0x3000)]

def isBlank (c : Char) : Bool := blankRanges.has c

def trimEnd (cs : List Char) : List Char := (cs.reverse.dropWhile isBlank).reverse

def trim (cs : List Char) : List Char := trimEnd (cs.dropWhile isBlank)

def trimmed (s : String) : String := String.ofList (trim s.toList)

def allBlank (s : String) : Bool := s.toList.all isBlank

def asciiLower (s : String) : String := String.ofList (s.toList.map Char.toLower)

def splitOn (cut : Char → Bool) : List Char → List (List Char)
  | [] => [[]]
  | c :: rest =>
      match splitOn cut rest with
      | [] => [[c]]
      | piece :: pieces => if cut c then [] :: piece :: pieces else (c :: piece) :: pieces

def pieces (sep : Char) (s : String) : List String :=
  (splitOn (· == sep) s.toList).map String.ofList

end StructuredLog.Text
