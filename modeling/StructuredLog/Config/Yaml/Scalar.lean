import StructuredLog.Config.Yaml.Cursor
import StructuredLog.Text.Digits

set_option autoImplicit false

namespace StructuredLog.Config.Yaml

open Text (coded?)

-- A line end is folded: one becomes a blank, and of more the first is dropped.
def folded (spaces : List Char) : List Char :=
  match spaces.count '\n' with
  | 0 => spaces
  | 1 => [' ']
  | n + 2 => List.replicate (n + 1) '\n'

def isIndicator (c : Char) : Bool := "-?:,[]\x7b\x7d#&*!|>'\"%@\x60".toList.contains c

def startsPlain (flow : Bool) : List Char → Bool
  | [] => false
  | c :: rest =>
      if isSpace c then false
      else if c == '-' then !endsWord rest
      else if c == '?' || c == ':' then !flow && !endsWord rest
      else !isIndicator c

def word (flow : Bool) : List Char → Option (List Char)
  | [] => some []
  | c :: rest =>
      if isSpace c then some []
      else if c == ':' && endsWord rest then some []
      else if c == ':' && flow && (rest.head?.any fun d => d == '?' || isFlowMark d) then none
      else if flow && isFlowMark c then some []
      else (word flow rest).map (c :: ·)

-- `column` is none until a line begins inside the run of blanks.
def tabIndents (least : Nat) : Option Nat → List Char → Bool
  | _, [] => false
  | column, c :: rest =>
      if c == '\n' then tabIndents least (some 0) rest
      else
        match column with
        | none => tabIndents least none rest
        | some k => (c == '\t' && k < least) || tabIndents least (some (k + 1)) rest

def goesOn (flow : Bool) (least line : Nat) (c : Cursor) : Bool :=
  !c.atStop && c.rest.head? != some '#' && (flow || c.line == line || least ≤ c.column)

def plain (flow : Bool) (least : Nat) : Nat → Cursor → Option (List Char × Cursor)
  | 0, _ => none
  | fuel + 1, c =>
      (word flow c.rest).bind fun w =>
        let stop := c.drop w.length
        let gap := stop.spaces
        let next := stop.drop gap.length
        if w.isEmpty || gap.isEmpty then some (w, stop)
        else if tabIndents least none gap then none
        else if goesOn flow least stop.line next then
          (plain flow least fuel next).map fun (more, after) =>
            if more.isEmpty then (w, stop) else (w ++ folded gap ++ more, after)
        else some (w, stop)

def single : Nat → Cursor → Option (List Char × Cursor)
  | 0, _ => none
  | fuel + 1, c =>
      if c.atMarker then none
      else
        match c.rest with
        | [] => none
        | '\'' :: '\'' :: _ =>
            (single fuel (c.drop 2)).map fun (more, after) => ('\'' :: more, after)
        | '\'' :: _ => some ([], c.next)
        | d :: _ =>
            if isSpace d then
              (single fuel (c.drop c.spaces.length)).map fun (more, after) =>
                (folded c.spaces ++ more, after)
            else (single fuel c.next).map fun (more, after) => (d :: more, after)

def simpleEscape : Char → Option Char
  | '0' => some '\x00'
  | 'a' => some '\x07'
  | 'b' => some '\x08'
  | 't' => some '\t'
  | '\t' => some '\t'
  | 'n' => some '\n'
  | 'v' => some '\x0b'
  | 'f' => some '\x0c'
  | 'r' => some '\r'
  | 'e' => some '\x1b'
  | ' ' => some ' '
  | '"' => some '"'
  | '/' => some '/'
  | '\\' => some '\\'
  | 'N' => some '\u0085'
  | '_' => some '\u00A0'
  | 'L' => some '\u2028'
  | 'P' => some '\u2029'
  | _ => none

def escape (cs : List Char) : Option (List Char × Nat) :=
  match cs with
  | [] => none
  | '\n' :: rest =>
      let gap := rest.takeWhile isSpace
      some (List.replicate (gap.count '\n') '\n', gap.length + 1)
  | 'x' :: rest => (coded? 2 rest).map fun c => ([c], 3)
  | 'u' :: rest => (coded? 4 rest).map fun c => ([c], 5)
  | 'U' :: rest => (coded? 8 rest).map fun c => ([c], 9)
  | c :: _ => (simpleEscape c).map fun c => ([c], 1)

def double : Nat → Cursor → Option (List Char × Cursor)
  | 0, _ => none
  | fuel + 1, c =>
      if c.atMarker then none
      else
        match c.rest with
        | [] => none
        | '"' :: _ => some ([], c.next)
        | '\\' :: rest =>
            (escape rest).bind fun (text, length) =>
              (double fuel (c.drop (length + 1))).map fun (more, after) => (text ++ more, after)
        | d :: _ =>
            if isSpace d then
              (double fuel (c.drop c.spaces.length)).map fun (more, after) =>
                (folded c.spaces ++ more, after)
            else (double fuel c.next).map fun (more, after) => (d :: more, after)

inductive Chomp where
  | strip
  | clip
  | keep
deriving DecidableEq, Repr

structure BlockHeader where
  literal : Bool
  chomp : Chomp
  indent : Option Nat
  length : Nat

def chomp? : Char → Option Chomp
  | '+' => some .keep
  | '-' => some .strip
  | _ => none

def indent? (c : Char) : Option Nat :=
  if '1' ≤ c ∧ c ≤ '9' then some (c.toNat - '0'.toNat) else none

def blockHeader (literal : Bool) (cs : List Char) : BlockHeader :=
  match cs with
  | a :: b :: _ =>
      match chomp? a, indent? a, chomp? b, indent? b with
      | some mark, _, _, some n => ⟨literal, mark, some n, 2⟩
      | some mark, _, _, none => ⟨literal, mark, none, 1⟩
      | none, some n, some mark, _ => ⟨literal, mark, some n, 2⟩
      | none, some n, none, _ => ⟨literal, .clip, some n, 1⟩
      | none, none, _, _ => ⟨literal, .clip, none, 0⟩
  | [a] =>
      match chomp? a, indent? a with
      | some mark, _ => ⟨literal, mark, none, 1⟩
      | none, some n => ⟨literal, .clip, some n, 1⟩
      | none, none => ⟨literal, .clip, none, 0⟩
  | [] => ⟨literal, .clip, none, 0⟩

def emptyLines (indent : Option Nat) : Nat → Nat → Nat → Cursor → Option (Nat × Nat × Cursor)
  | 0, _, _, _ => none
  | fuel + 1, count, reached, c =>
      let inside := match indent with
        | none => true
        | some n => decide (c.column < n)
      match c.rest with
      | ' ' :: _ =>
          if inside then emptyLines indent fuel count (max reached c.next.column) c.next
          else some (count, reached, c)
      | '\t' :: _ => if inside then none else some (count, reached, c)
      | '\n' :: _ => emptyLines indent fuel (count + 1) reached c.next
      | _ => some (count, reached, c)

structure Row where
  text : List Char
  ended : Bool
  empty : Nat

def rows (indent : Nat) : Nat → Cursor → Option (List Row × Cursor)
  | 0, _ => none
  | fuel + 1, c =>
      if c.column == indent && !c.isEnd then
        let text := c.rest.takeWhile (· != '\n')
        let stop := c.drop text.length
        (emptyLines (some indent) (stop.rest.length + 1) 0 0 stop.next).bind fun (n, _, next) =>
          (rows indent fuel next).map fun (more, after) => (⟨text, !stop.isEnd, n⟩ :: more, after)
      else some ([], c)

def Row.isIndented (r : Row) : Bool := r.text.head?.any fun c => c == ' ' || c == '\t'

def lineEnds (n : Nat) : List Char := List.replicate n '\n'

def joinRows (h : BlockHeader) : List Row → List Char
  | [] => []
  | [r] =>
      let last := if r.ended then ['\n'] else []
      r.text ++ (match h.chomp with
        | .strip => []
        | .clip => last
        | .keep => last ++ lineEnds r.empty)
  | r :: s :: more =>
      let between :=
        if h.literal || r.isIndented || s.isIndented then lineEnds (r.empty + 1)
        else if r.empty = 0 then [' ']
        else lineEnds r.empty
      r.text ++ between ++ joinRows h (s :: more)

def headerEnd (c : Cursor) : Option Cursor :=
  let c := c.drop (c.rest.takeWhile fun d => d == ' ' || d == '\t').length
  let c := if c.rest.head? == some '#' then c.drop (c.rest.takeWhile (· != '\n')).length else c
  match c.rest with
  | [] => some c
  | '\n' :: _ => some c.next
  | _ => none

def block (least : Nat) (c : Cursor) : Option (List Char × Cursor) :=
  let h := blockHeader (c.rest.head? == some '|') (c.rest.drop 1)
  (headerEnd (c.drop (h.length + 1))).bind fun start =>
    let given := h.indent.map fun n => if least = 0 then n else least - 1 + n
    (emptyLines given (start.rest.length + 1) 0 0 start).bind fun (n, reached, first) =>
      let indent := given.getD (max reached (max least 1))
      (rows indent (first.rest.length + 1) first).map fun (lines, after) =>
        match lines with
        | [] => (if h.chomp = .keep then lineEnds n else [], after)
        | _ => (lineEnds n ++ joinRows h lines, after)

end StructuredLog.Config.Yaml
