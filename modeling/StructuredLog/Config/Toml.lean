import StructuredLog.Codec.View
import StructuredLog.Config.Toml.Bare
import StructuredLog.Config.Toml.Scalar
import StructuredLog.Number.Power

set_option autoImplicit false

namespace StructuredLog.Config.Toml

mutual
-- Each call reads at least one character, so `fuel` bounds the calls.
def value : Nat → List Char → Option (Value × List Char)
  | 0, _ => none
  | fuel + 1, cs =>
      match cs with
      | [] => none
      | '[' :: rest => (items fuel (skipLines rest.length rest)).map fun (vs, rest) =>
          (.array vs, rest)
      | '{' :: rest => (fields fuel [] (skipLines rest.length rest)).map fun (es, rest) =>
          (.table (entriesToFields es), rest)
      | c :: _ =>
          if c == '"' || c == '\'' then
            (string cs).map fun (s, rest) => (.string s, rest)
          else
            match bareChars cs with
            | (word, rest) => (bareValue word).map fun v => (v, rest)
def items : Nat → List Char → Option (List Value × List Char)
  | 0, _ => none
  | fuel + 1, cs =>
      match cs with
      | ']' :: rest => some ([], rest)
      | _ =>
          match value fuel cs with
          | none => none
          | some (v, rest) =>
              match skipLines rest.length rest with
              | ',' :: rest =>
                  (items fuel (skipLines rest.length rest)).map fun (vs, rest) => (v :: vs, rest)
              | ']' :: rest => some ([v], rest)
              | _ => none
def fields : Nat → Entries → List Char → Option (Entries × List Char)
  | 0, _, _ => none
  | fuel + 1, es, cs =>
      match cs with
      | '}' :: rest => some (es, rest)
      | _ =>
          match key (cs.length + 1) cs with
          | some (path, '=' :: rest) =>
              match splitLast path, value fuel (skipBlanks rest) with
              | some (path, last), some (v, rest) =>
                  match assign path last v es with
                  | none => none
                  | some es =>
                      match skipLines rest.length rest with
                      | ',' :: rest => fields fuel es (skipLines rest.length rest)
                      | '}' :: rest => some (es, rest)
                      | _ => none
              | _, _ => none
          | _ => none
end

def header (cs : List Char) : Option (Bool × List String × List Char) :=
  match cs with
  | '[' :: rest =>
      match key (rest.length + 1) rest with
      | some (path, ']' :: ']' :: rest) => some (true, path, rest)
      | _ => none
  | _ =>
      match key (cs.length + 1) cs with
      | some (path, ']' :: rest) => some (false, path, rest)
      | _ => none

def lines : Nat → List String → Entries → List Char → Option Entries
  | 0, _, _, _ => none
  | fuel + 1, current, root, cs =>
      match skipLines cs.length cs with
      | [] => some root
      | '[' :: rest =>
          (header rest).bind fun (next, path, rest) =>
            (splitLast path).bind fun (before, last) =>
              let change := fun (_ : Bool) => if next then openNext last else openTable last
              (descend false change before false root).bind fun root =>
                (endLine rest).bind fun rest => lines fuel path root rest
      | cs =>
          match key (cs.length + 1) cs with
          | some (path, '=' :: rest) =>
              (splitLast path).bind fun (before, last) =>
                (value (2 * rest.length + 2) (skipBlanks rest)).bind fun (v, rest) =>
                  (descend false (fun _ => assign before last v) current false root).bind fun root =>
                    (endLine rest).bind fun rest => lines fuel current root rest
          | _ => none

def read? (text : String) : Option Value :=
  let cs := match text.toList with
    | '\uFEFF' :: rest => rest
    | cs => cs
  (lines (cs.length + 2) [] [] cs).map fun root => .table (entriesToFields root)

def asText : Value → Option String
  | .string s => some s
  | _ => none

def asFlag : Value → Option Bool
  | .boolean b => some b
  | _ => none

def asNatural : Value → Option Nat
  | .integer i => Number.unsigned? i
  | _ => none

def asConstant : Value → Option String
  | .string s => some s
  | .table [(name, .table [])] => some name
  | .table [(name, .array [])] => some name
  | _ => none

def asItems : Value → Option (List Value)
  | .array items => some items
  | _ => none

def asFields (names : List String) : Value → Option (List (Option Value))
  | .table fields => some (names.map fun name => (fields.find? fun f => f.1 == name).map Prod.snd)
  | .array items => some (View.inOrder names items)
  | _ => none

def view : View Value :=
  ⟨asText, asFlag, asNatural, fun _ => false, asConstant, asItems, asFields⟩

end StructuredLog.Config.Toml
