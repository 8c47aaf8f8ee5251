set_option autoImplicit false

namespace StructuredLog.Template

-- `offset` counts UTF-16 units from 0, `line` line feeds and `column` characters from 1.
structure Position where
  offset : Nat
  line : Nat
  column : Nat
deriving DecidableEq, Repr

namespace Position

def start : Position := ⟨0, 1, 1⟩

def units (c : Char) : Nat := if c.toNat < 0x10000 then 1 else 2

def advance (p : Position) (c : Char) : Position :=
  if c = '\n' then ⟨p.offset + 1, p.line + 1, 1⟩ else ⟨p.offset + units c, p.line, p.column + 1⟩

def after (p : Position) (cs : List Char) : Position := cs.foldl advance p

def shift (base p : Position) : Position :=
  ⟨base.offset + p.offset, base.line + p.line - 1,
   if p.line = 1 then base.column + p.column - 1 else p.column⟩

def text (p : Position) : String := toString p.line ++ ":" ++ toString p.column

theorem after_nil (p : Position) : p.after [] = p := rfl

theorem after_cons (p : Position) (c : Char) (cs : List Char) :
    p.after (c :: cs) = (p.advance c).after cs := rfl

theorem after_append (p : Position) (a b : List Char) : p.after (a ++ b) = (p.after a).after b :=
  List.foldl_append ..

theorem units_pos (c : Char) : 0 < units c := by
  unfold units
  split <;> decide

theorem offset_lt_advance (p : Position) (c : Char) : p.offset < (p.advance c).offset := by
  unfold advance
  split
  · exact Nat.lt_succ_self _
  · exact Nat.lt_add_of_pos_right (units_pos c)

end Position

structure Location where
  start : Position
  stop : Position
deriving DecidableEq, Repr

namespace Location

def origin : Location := ⟨.start, .start⟩

def shift (base : Position) (l : Location) : Location := ⟨base.shift l.start, base.shift l.stop⟩

def text (l : Location) : String := l.start.text ++ "-" ++ l.stop.text

end Location

end StructuredLog.Template
