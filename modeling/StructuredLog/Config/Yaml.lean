import StructuredLog.Codec.View
import StructuredLog.Config.Yaml.Scalar
import StructuredLog.Number.Power

set_option autoImplicit false

namespace StructuredLog.Config.Yaml

open Text (naturalOf?)

inductive Node where
  | scalar (plain : Bool) (text : String)
  | sequence (items : List Node)
  | mapping (fields : List (Node × Node))

def Node.empty : Node := .scalar true ""

abbrev Field := Node × Node

def scalar (flow : Bool) (least : Nat) (c : Cursor) : Option (Node × Cursor) :=
  let fuel := c.rest.length + 1
  match c.rest with
  | '"' :: _ =>
      (double fuel c.next).map fun (cs, after) => (.scalar false (String.ofList cs), after)
  | '\'' :: _ =>
      (single fuel c.next).map fun (cs, after) => (.scalar false (String.ofList cs), after)
  | rest =>
      if startsPlain flow rest then
        (plain flow least fuel c).map fun (cs, after) => (.scalar true (String.ofList cs), after)
      else none

def leftOut (c : Cursor) : Bool :=
  match c.rest with
  | d :: _ => d == ',' || d == ']' || d == '}'
  | [] => false

mutual
def atom (flow : Bool) (least : Nat) : Nat → Cursor → Option (Node × Cursor)
  | 0, _ => none
  | fuel + 1, c =>
      if c.atStop then none
      else
        match c.rest with
        | '[' :: _ => (flowItems least fuel c.next.inFlow).map fun (items, after) =>
            (.sequence items, after)
        | '{' :: _ => (flowFields least fuel c.next.inFlow).map fun (fields, after) =>
            (.mapping fields, after)
        | _ => scalar flow least c
def flowValue (least : Nat) : Nat → Cursor → Option (Node × Cursor)
  | 0, _ => none
  | fuel + 1, c =>
      let start := c.next.inFlow
      if leftOut start then some (.empty, start) else atom true least fuel start
def flowItems (least : Nat) : Nat → Cursor → Option (List Node × Cursor)
  | 0, _ => none
  | fuel + 1, c =>
      match c.rest with
      | ']' :: _ => some ([], c.next)
      | _ =>
          (atom true least fuel c).bind fun (first, after) =>
            let colon := after.inFlow
            let item :=
              if colon.rest.head? == some ':' && colon.line == c.line then
                (flowValue least fuel colon).map fun (value, after) =>
                  (Node.mapping [(first, value)], after)
              else some (first, after)
            item.bind fun (item, after) =>
              let stop := after.inFlow
              match stop.rest with
              | ',' :: _ => (flowItems least fuel stop.next.inFlow).map fun (more, after) =>
                  (item :: more, after)
              | ']' :: _ => some ([item], stop.next)
              | _ => none
def flowFields (least : Nat) : Nat → Cursor → Option (List Field × Cursor)
  | 0, _ => none
  | fuel + 1, c =>
      match c.rest with
      | '}' :: _ => some ([], c.next)
      | _ =>
          (atom true least fuel c).bind fun (key, after) =>
            let colon := after.inFlow
            let value :=
              if colon.rest.head? == some ':' && colon.line == c.line then
                flowValue least fuel colon
              else some (.empty, after)
            value.bind fun (value, after) =>
              let stop := after.inFlow
              match stop.rest with
              | ',' :: _ => (flowFields least fuel stop.next.inFlow).map fun (more, after) =>
                  ((key, value) :: more, after)
              | '}' :: _ => some ([(key, value)], stop.next)
              | _ => none
end

def key (least : Nat) (c : Cursor) : Option (Node × Cursor) :=
  (atom false least (2 * c.rest.length + 2) c).bind fun (key, after) =>
    let colon := after.afterValue
    if colon.atColon && colon.line == c.line then some (key, colon) else none

mutual
-- Only the first node on a line may be a block collection: `fresh` tells whether it is.
def node (least : Nat) (fresh : Bool) : Nat → Cursor → Option (Node × Cursor)
  | 0, _ => none
  | fuel + 1, c =>
      if c.atStop || (fresh && c.column < least) then some (.empty, c)
      else if c.atItem then
        if fresh then (elements c.column fuel c).map fun (items, after) => (.sequence items, after)
        else none
      else
        match c.rest with
        | '|' :: _ => (block least c).map fun (cs, after) => (.scalar false (String.ofList cs), after)
        | '>' :: _ => (block least c).map fun (cs, after) => (.scalar false (String.ofList cs), after)
        | _ =>
            match key least c with
            | some (first, colon) =>
                if fresh then
                  (entries c.column first fuel colon).map fun (fields, after) =>
                    (.mapping fields, after)
                else none
            | none => atom false least (2 * c.rest.length + 2) c
def entries (column : Nat) (first : Node) : Nat → Cursor → Option (List Field × Cursor)
  | 0, _ => none
  | fuel + 1, colon =>
      let start := colon.next.afterValue
      let value :=
        if start.line == colon.line then node (column + 1) false fuel start
        else if column < start.column then node (column + 1) true fuel start
        else if start.column == column && start.atItem then
          (elements column fuel start).map fun (items, after) => (.sequence items, after)
        else some (.empty, colon.next)
      value.bind fun (value, after) =>
        let next := after.afterValue
        if next.atStop || next.column < column then some ([(first, value)], next)
        else if next.column == column then
          (key (column + 1) next).bind fun (second, colon) =>
            (entries column second fuel colon).map fun (more, after) =>
              ((first, value) :: more, after)
        else none
def elements (column : Nat) : Nat → Cursor → Option (List Node × Cursor)
  | 0, _ => none
  | fuel + 1, dash =>
      let start := dash.next.beforeBlock
      let item :=
        if column < start.column then node (column + 1) true fuel start
        else some (.empty, dash.next)
      item.bind fun (item, after) =>
        let next := after.afterValue
        if !next.atStop && next.column == column && next.atItem then
          (elements column fuel next).map fun (more, after) => (item :: more, after)
        else if !next.atStop && column < next.column then none
        else some ([item], next)
end

def isAllowed (c : Char) : Bool :=
  let n := c.toNat
  n == 0x09 || n == 0x0A || (0x20 ≤ n && n ≤ 0x7E) || (0xA0 ≤ n && n ≤ 0xFFFD && n != 0xFEFF)
    || 0x10000 ≤ n

def normalize : List Char → List Char
  | '\r' :: '\n' :: rest => '\n' :: normalize rest
  | '\r' :: rest => '\n' :: normalize rest
  | '\u0085' :: rest => '\n' :: normalize rest
  | c :: rest => c :: normalize rest
  | [] => []

def closes : Nat → Cursor → Bool
  | 0, _ => false
  | fuel + 1, c =>
      if c.isEnd then true
      else if c.atMarker && c.startsWith "..." then closes fuel (c.drop 3).afterValue
      else false

def read? (text : String) : Option Node :=
  let cs := match text.toList with
    | '\uFEFF' :: rest => normalize rest
    | cs => normalize cs
  if cs.all isAllowed then
    let start := (Cursor.mk 0 0 cs).beforeBlock
    let marked := start.atMarker && start.startsWith "---"
    let first := if marked then (start.drop 3).afterValue else start
    let fresh := !marked || first.line != start.line
    if first.rest.head? == some '%' then none
    else
      match node 0 fresh (3 * cs.length + 3) first with
      | some (root, after) => if closes (cs.length + 1) after.afterValue then some root else none
      | none => none
  else none

def asText : Node → Option String
  | .scalar _ text => some text
  | _ => none

def asFlag : Node → Option Bool
  | .scalar true text =>
      if ["true", "True", "TRUE"].contains text then some true
      else if ["false", "False", "FALSE"].contains text then some false
      else none
  | _ => none

def natural? (cs : List Char) : Option Nat :=
  let cs := match cs with
    | '+' :: rest => rest
    | _ => cs
  match cs with
  | '0' :: 'x' :: rest => naturalOf? 16 rest
  | '0' :: 'o' :: rest => naturalOf? 8 rest
  | '0' :: 'b' :: rest => naturalOf? 2 rest
  | '0' :: _ :: _ => none
  | _ => naturalOf? 10 cs

def asNatural : Node → Option Nat
  | .scalar true text => (natural? text.toList).filter (· < Number.wordBound)
  | _ => none

def isAbsent : Node → Bool
  | .scalar true text => ["", "~", "null", "Null", "NULL"].contains text
  | _ => false

def asItems : Node → Option (List Node)
  | .sequence items => some items
  | .scalar true "" => some []
  | _ => none

def keyText? (fields : List Field) : Option (List (String × Node)) :=
  View.every (fun f => (asText f.1).map fun name => (name, f.2)) fields

def asFields (names : List String) : Node → Option (List (Option Node))
  | .mapping fields =>
      (keyText? fields).bind fun fields =>
        View.every (fun name => View.only (· == name) fields) names
  | .scalar true "" => some (names.map fun _ => none)
  | _ => none

def view : View Node :=
  ⟨asText, asFlag, asNatural, isAbsent, asText, asItems, asFields⟩

end StructuredLog.Config.Yaml
