import StructuredLog.Event
import StructuredLog.Text.Style

set_option autoImplicit false

namespace StructuredLog.CommandLine

open Text Template

structure Write where
  stream : Stream
  text : String
deriving DecidableEq, Repr

structure Result where
  code : Nat
  writes : List Write
deriving DecidableEq, Repr

def Result.on (stream : Stream) (r : Result) : String :=
  String.join ((r.writes.filter fun w => w.stream == stream).map Write.text)

def success (colors : Bool) (text : String) : Write :=
  ⟨.stdout, Style.paint colors (.green ++ .bold) "✓" ++ " " ++ text ++ "\n"⟩

def failure (colors : Bool) (text : String) : Write :=
  ⟨.stderr, Style.paint colors (.red ++ .bold) "error:" ++ " " ++ text ++ "\n"⟩

def detail (colors : Bool) (key value : String) : Write :=
  ⟨.stderr, "  " ++ key ++ ": " ++ Style.paint colors .cyan value ++ "\n"⟩

def snippet (colors : Bool) (line marker : String) : List Write :=
  let bar := "  " ++ Style.paint colors .dim "|" ++ " "
  [⟨.stderr, bar ++ line ++ "\n"⟩,
   ⟨.stderr, bar ++ Style.paint colors (.red ++ .bold) marker ++ "\n"⟩]

def caretLine (template : String) (e : ParseError) : Option (String × String) :=
  let start := e.location.start
  let stop := e.location.stop
  if start.line = 0 then none
  else
    (pieces '\n' template)[start.line - 1]?.map fun line =>
      let length := line.length
      let left := min (start.column - 1) length
      let right := if stop.line = start.line then min (stop.column - 1) length else length
      (line, String.ofList (List.replicate left ' ' ++ List.replicate (max 1 (right - left)) '^'))

def parseFailure (colors : Bool) (template : String) (e : ParseError) : List Write :=
  [failure colors e.fault.describe, detail colors "kind" e.fault.name,
   detail colors "at" e.location.start.text]
    ++ match caretLine template e with
       | some (line, marker) => snippet colors line marker
       | none => []

end StructuredLog.CommandLine
