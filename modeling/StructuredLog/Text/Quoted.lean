import StructuredLog.Text.Hidden

set_option autoImplicit false

namespace StructuredLog.Text

def hexChars (n : Nat) : List Char := Nat.toDigits 16 n

def spelled (c : Char) : List Char :=
  if c = '"' then ['\\', '"']
  else if c = '\\' then ['\\', '\\']
  else if c = '\n' then ['\\', 'n']
  else if c = '\r' then ['\\', 'r']
  else if c = '\t' then ['\\', 't']
  else if c = '\x00' then ['\\', '0']
  else if isHidden c then '\\' :: 'u' :: '{' :: (hexChars c.toNat ++ ['}'])
  else [c]

def spelledOut (s : String) : String :=
  String.ofList ('"' :: (s.toList.flatMap spelled ++ ['"']))

end StructuredLog.Text
