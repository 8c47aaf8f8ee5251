import StructuredLog.Json.Document
import StructuredLog.Text.Digits

set_option autoImplicit false

namespace StructuredLog.Document

open Number Text

def isGap (c : Char) : Bool := c == ' ' || c == '\t' || c == '\n' || c == '\r'

def skipGap (cs : List Char) : List Char := cs.dropWhile isGap

def readUnit : List Char → Option (Nat × List Char)
  | a :: b :: c :: d :: rest => (naturalOf? 16 [a, b, c, d]).map fun u => (u, rest)
  | _ => none

def simpleEscape (c : Char) : Option Char :=
  match c with
  | '"' => some '"'
  | '\\' => some '\\'
  | '/' => some '/'
  | 'b' => some '\x08'
  | 'f' => some '\x0c'
  | 'n' => some '\n'
  | 'r' => some '\r'
  | 't' => some '\t'
  | _ => none

def isHighSurrogate (u : Nat) : Bool := 0xD800 ≤ u && u ≤ 0xDBFF
def isLowSurrogate (u : Nat) : Bool := 0xDC00 ≤ u && u ≤ 0xDFFF

def readChars : Nat → List Char → Option (List (Option Char) × List Char)
  | 0, _ => none
  | fuel + 1, cs =>
      match cs with
      | [] => none
      | '"' :: rest => some ([], rest)
      | '\\' :: 'u' :: rest =>
          match readUnit rest with
          | none => none
          | some (u, rest) =>
              let single := fun (c : Option Char) (rest : List Char) =>
                (readChars fuel rest).map fun (more, rest) => (c :: more, rest)
              if isHighSurrogate u then
                match rest with
                | '\\' :: 'u' :: rest₂ =>
                    match readUnit rest₂ with
                    | none => none
                    | some (v, rest₃) =>
                        if isLowSurrogate v then
                          single (some (Char.ofNat (0x10000 + (u - 0xD800) * 0x400 + (v - 0xDC00))))
                            rest₃
                        else single none rest₃
                | _ => single none rest
              else if isLowSurrogate u then single none rest
              else single (some (Char.ofNat u)) rest
      | '\\' :: e :: rest =>
          match simpleEscape e with
          | none => none
          | some c => (readChars fuel rest).map fun (more, rest) => (some c :: more, rest)
      | c :: rest =>
          if c.toNat < 0x20 then none
          else (readChars fuel rest).map fun (more, rest) => (some c :: more, rest)

def readString (cs : List Char) : Option (Option String × List Char) :=
  (readChars (cs.length + 1) cs).map fun (chars, rest) =>
    (if chars.all Option.isSome then some (String.ofList (chars.filterMap id)) else none, rest)

def readDigits (cs : List Char) : Option (List Nat × List Char) :=
  match cs.takeWhile Char.isDigit with
  | [] => none
  | ds => some (ds.map digitValue, cs.dropWhile Char.isDigit)

def readWhole (cs : List Char) : Option (List Nat × List Char) :=
  match readDigits cs with
  | some (0 :: _ :: _, _) => none
  | other => other

def readFraction (cs : List Char) : Option (Option (List Nat) × List Char) :=
  match cs with
  | '.' :: rest => (readDigits rest).map fun (ds, rest) => (some ds, rest)
  | _ => some (none, cs)

def readExponent (cs : List Char) : Option (Option Int × List Char) :=
  match cs with
  | c :: rest =>
      if c == 'e' || c == 'E' then
        match rest with
        | '-' :: rest =>
            (readDigits rest).map fun (ds, rest) => (some (-(ofDigits 10 ds : Int)), rest)
        | '+' :: rest => (readDigits rest).map fun (ds, rest) => (some (ofDigits 10 ds : Int), rest)
        | _ => (readDigits rest).map fun (ds, rest) => (some (ofDigits 10 ds : Int), rest)
      else some (none, cs)
  | [] => some (none, cs)

def readUnsigned (negative : Bool) (cs : List Char) : Option (Literal × List Char) :=
  (readWhole cs).bind fun (whole, cs) =>
    (readFraction cs).bind fun (fraction, cs) =>
      (readExponent cs).map fun (exponent, cs) => (⟨negative, whole, fraction, exponent⟩, cs)

def readNumber (cs : List Char) : Option (Literal × List Char) :=
  match cs with
  | '-' :: rest => readUnsigned true rest
  | _ => readUnsigned false cs

mutual
-- Each call reads at least one character, so `fuel` bounds the calls.
def readValue : Nat → List Char → Option (Document × List Char)
  | 0, _ => none
  | fuel + 1, cs =>
      match skipGap cs with
      | 'n' :: 'u' :: 'l' :: 'l' :: rest => some (.null, rest)
      | 't' :: 'r' :: 'u' :: 'e' :: rest => some (.bool true, rest)
      | 'f' :: 'a' :: 'l' :: 's' :: 'e' :: rest => some (.bool false, rest)
      | '"' :: rest => (readString rest).map fun (s, rest) => (.string s, rest)
      | '[' :: rest =>
          match skipGap rest with
          | ']' :: rest => some (.array [], rest)
          | rest => (readItems fuel rest).map fun (items, rest) => (.array items, rest)
      | '{' :: rest =>
          match skipGap rest with
          | '}' :: rest => some (.object [], rest)
          | rest => (readFields fuel rest).map fun (fields, rest) => (.object fields, rest)
      | other => (readNumber other).map fun (l, rest) => (.number l.value?, rest)
def readItems : Nat → List Char → Option (List Document × List Char)
  | 0, _ => none
  | fuel + 1, cs =>
      match readValue fuel cs with
      | none => none
      | some (item, rest) =>
          match skipGap rest with
          | ',' :: rest =>
              (readItems fuel rest).map fun (items, rest) => (item :: items, rest)
          | ']' :: rest => some ([item], rest)
          | _ => none
def readFields : Nat → List Char → Option (List (Option String × Document) × List Char)
  | 0, _ => none
  | fuel + 1, cs =>
      match skipGap cs with
      | '"' :: rest =>
          match readString rest with
          | none => none
          | some (key, rest) =>
              match skipGap rest with
              | ':' :: rest =>
                  match readValue fuel rest with
                  | none => none
                  | some (value, rest) =>
                      match skipGap rest with
                      | ',' :: rest =>
                          (readFields fuel rest).map fun (fields, rest) =>
                            ((key, value) :: fields, rest)
                      | '}' :: rest => some ([(key, value)], rest)
                      | _ => none
              | _ => none
      | _ => none
end

def read? (text : String) : Option Document :=
  let cs := text.toList
  match readValue (2 * cs.length + 2) cs with
  | some (document, rest) => if (skipGap rest).isEmpty then some document else none
  | none => none

end StructuredLog.Document

namespace StructuredLog.Json

def read? (text : String) : Option Json := (Document.read? text).bind (Document.toJson? 0)

end StructuredLog.Json
