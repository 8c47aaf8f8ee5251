import StructuredLog.Text.Digits

set_option autoImplicit false

namespace StructuredLog.Config.Toml

open Text (coded?)

def isBlank (c : Char) : Bool := c == ' ' || c == '\t'

def skipBlanks (cs : List Char) : List Char := cs.dropWhile isBlank

def isPlain (c : Char) : Bool := c == '\t' || (0x20 ≤ c.toNat && c != '\x7f')

def skipComment (cs : List Char) : List Char :=
  match cs with
  | '#' :: rest => rest.dropWhile isPlain
  | _ => cs

def newline? : List Char → Option (List Char)
  | '\n' :: rest => some rest
  | '\r' :: '\n' :: rest => some rest
  | _ => none

def skipLines : Nat → List Char → List Char
  | 0, cs => cs
  | fuel + 1, cs =>
      let rest := skipComment (skipBlanks cs)
      match newline? rest with
      | some rest => skipLines fuel rest
      | none => rest

def endLine (cs : List Char) : Option (List Char) :=
  match skipComment (skipBlanks cs) with
  | [] => some []
  | rest => newline? rest

def coded (n : Nat) (cs : List Char) : Option (Char × List Char) :=
  (coded? n cs).map fun c => (c, cs.drop n)

def escape : List Char → Option (Char × List Char)
  | 'b' :: rest => some ('\x08', rest)
  | 't' :: rest => some ('\t', rest)
  | 'n' :: rest => some ('\n', rest)
  | 'f' :: rest => some ('\x0c', rest)
  | 'r' :: rest => some ('\r', rest)
  | 'e' :: rest => some ('\x1b', rest)
  | '"' :: rest => some ('"', rest)
  | '\\' :: rest => some ('\\', rest)
  | 'x' :: rest => coded 2 rest
  | 'u' :: rest => coded 4 rest
  | 'U' :: rest => coded 8 rest
  | _ => none

def basic : Nat → List Char → Option (List Char × List Char)
  | 0, _ => none
  | fuel + 1, cs =>
      match cs with
      | [] => none
      | '"' :: rest => some ([], rest)
      | '\\' :: rest =>
          (escape rest).bind fun (c, rest) =>
            (basic fuel rest).map fun (more, rest) => (c :: more, rest)
      | c :: rest =>
          if isPlain c then (basic fuel rest).map fun (more, rest) => (c :: more, rest) else none

def literal (cs : List Char) : Option (List Char × List Char) :=
  match cs.dropWhile fun c => isPlain c && c != '\'' with
  | '\'' :: rest => some (cs.takeWhile fun c => isPlain c && c != '\'', rest)
  | _ => none

-- Three or more quotes end the string, and at most two belong to the text before the end.
def closing (quote : Char) (cs : List Char) : Option (List Char × Bool × List Char) :=
  let run := cs.takeWhile (· == quote)
  let rest := cs.dropWhile (· == quote)
  if run.length < 3 then some (run, false, rest)
  else if run.length ≤ 5 then some (run.drop 3, true, rest)
  else none

def continues (cs : List Char) : Bool := (newline? (skipBlanks cs)).isSome

def block (quote : Char) (escapes : Bool) : Nat → List Char → Option (List Char × List Char)
  | 0, _ => none
  | fuel + 1, cs =>
      match newline? cs with
      | some rest =>
          (block quote escapes fuel rest).map fun (more, rest) => ('\n' :: more, rest)
      | none =>
          match cs with
          | [] => none
          | c :: rest =>
              if c == quote then
                match closing quote cs with
                | none => none
                | some (quotes, true, rest) => some (quotes, rest)
                | some (quotes, false, rest) =>
                    (block quote escapes fuel rest).map fun (more, rest) => (quotes ++ more, rest)
              else if escapes && c == '\\' then
                if continues rest then
                  block quote escapes fuel
                    (rest.dropWhile fun c => isBlank c || c == '\n' || c == '\r')
                else
                  (escape rest).bind fun (c, rest) =>
                    (block quote escapes fuel rest).map fun (more, rest) => (c :: more, rest)
              else if isPlain c then
                (block quote escapes fuel rest).map fun (more, rest) => (c :: more, rest)
              else none

def afterOpening (cs : List Char) : List Char := (newline? cs).getD cs

def string (cs : List Char) : Option (String × List Char) :=
  let fuel := cs.length + 1
  let read := match cs with
    | '"' :: '"' :: '"' :: rest => block '"' true fuel (afterOpening rest)
    | '\'' :: '\'' :: '\'' :: rest => block '\'' false fuel (afterOpening rest)
    | '"' :: rest => basic fuel rest
    | '\'' :: rest => literal rest
    | _ => none
  read.map fun (text, rest) => (String.ofList text, rest)

def isBare (c : Char) : Bool := c.isAlphanum || c == '_' || c == '-'

def simpleKey (cs : List Char) : Option (String × List Char) :=
  let fuel := cs.length + 1
  match cs with
  | '"' :: rest => (basic fuel rest).map fun (text, rest) => (String.ofList text, rest)
  | '\'' :: rest => (literal rest).map fun (text, rest) => (String.ofList text, rest)
  | _ =>
      let word := cs.takeWhile isBare
      if word.isEmpty then none else some (String.ofList word, cs.dropWhile isBare)

def key : Nat → List Char → Option (List String × List Char)
  | 0, _ => none
  | fuel + 1, cs =>
      (simpleKey (skipBlanks cs)).bind fun (first, rest) =>
        match skipBlanks rest with
        | '.' :: rest => (key fuel rest).map fun (more, rest) => (first :: more, rest)
        | rest => some ([first], rest)

end StructuredLog.Config.Toml
