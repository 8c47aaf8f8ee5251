set_option autoImplicit false

namespace StructuredLog.Config.Yaml

structure Cursor where
  line : Nat
  column : Nat
  rest : List Char

def isSpace (c : Char) : Bool := c == ' ' || c == '\t' || c == '\n'

def endsWord : List Char → Bool
  | [] => true
  | c :: _ => isSpace c

def isFlowMark (c : Char) : Bool := c == ',' || c == '[' || c == ']' || c == '{' || c == '}'

namespace Cursor

def next (c : Cursor) : Cursor :=
  match c.rest with
  | [] => c
  | '\n' :: rest => ⟨c.line + 1, 0, rest⟩
  | _ :: rest => ⟨c.line, c.column + 1, rest⟩

def drop : Nat → Cursor → Cursor
  | 0, c => c
  | n + 1, c => drop n c.next

def isEnd (c : Cursor) : Bool := c.rest.isEmpty

def startsWith (text : String) (c : Cursor) : Bool := text.toList.isPrefixOf c.rest

def atMarker (c : Cursor) : Bool :=
  c.column == 0 && (c.startsWith "---" || c.startsWith "...") && endsWord (c.rest.drop 3)

def atStop (c : Cursor) : Bool := c.isEnd || c.atMarker

def atItem (c : Cursor) : Bool :=
  match c.rest with
  | '-' :: rest => endsWord rest
  | _ => false

def atColon (c : Cursor) : Bool :=
  match c.rest with
  | ':' :: rest => endsWord rest
  | _ => false

def spaces (c : Cursor) : List Char := c.rest.takeWhile isSpace

-- A tab is a blank only if `tabs` says so, and at the start of a line only between brackets.
def gap (flow : Bool) : Nat → Bool → Cursor → Cursor
  | 0, _, c => c
  | fuel + 1, tabs, c =>
      match c.rest with
      | ' ' :: _ => gap flow fuel tabs c.next
      | '\t' :: _ => if tabs then gap flow fuel tabs c.next else c
      | '#' :: rest => gap flow fuel tabs (c.drop ((rest.takeWhile (· != '\n')).length + 1))
      | '\n' :: _ => gap flow fuel flow c.next
      | _ => c

def beforeBlock (c : Cursor) : Cursor := c.gap false (c.rest.length + 1) false

def afterValue (c : Cursor) : Cursor := c.gap false (c.rest.length + 1) true

def inFlow (c : Cursor) : Cursor := c.gap true (c.rest.length + 1) true

end Cursor

end StructuredLog.Config.Yaml
