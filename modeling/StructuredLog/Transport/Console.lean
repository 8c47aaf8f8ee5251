import StructuredLog.Platform
import StructuredLog.Text.Style
import StructuredLog.Transport.Basic

set_option autoImplicit false

namespace StructuredLog

open Text Template

def levelStyle : Level → Style
  | .trace => .dim
  | .debug => .blue
  | .info => .green
  | .warn => .yellow
  | .error => .red
  | .fatal => .whiteOnRed ++ .bold

def upperAscii (s : String) : String := String.ofList (s.toList.map Char.toUpper)

namespace Console

def styledMessage (colors : Bool) (pieces : List Piece) : String :=
  String.join (pieces.map fun piece =>
    match piece.kind with
    | .literal => piece.text
    | .argument => Style.paint colors .magenta piece.text)

def styledLeading (zone : Time.Zone) (colors : Bool) (h : Header) : List String :=
  Style.paint colors .dim (Time.inZone zone h.timestamp) ::
    ((if h.label.isEmpty then [] else [Style.paint colors .bold h.label])
      ++ Style.paint colors (levelStyle h.level) h.level.tag
      :: if h.category.isEmpty then []
         else [Style.paint colors .cyan ("·".intercalate h.category)])

def partSegments : LayoutPart → Record.Reading (List String)
  | .levelUpper => return [upperAscii (← Act.get).header.level.name]
  | .text => return [← Record.readText]
  | .category => return (← Act.get).header.category
  | .raw => return [(← Record.readRaw).display]

def allParts : List LayoutPart → Record.Reading (List String)
  | [] => pure []
  | part :: rest => do
      let segments ← partSegments part
      return segments ++ (← allParts rest)

def segments (zone : Time.Zone) (c : Console) : Record.Reading (List String) :=
  match c.layout with
  | .custom parts => allParts parts
  | .standard => do
      let header := (← Act.get).header
      let pieces ← Record.readMessage
      return styledLeading zone c.colors header ++ [styledMessage c.colors pieces]

def line (zone : Time.Zone) (c : Console) : Record.Reading String := do
  return " ".intercalate (← c.segments zone)

-- A writer is flushed after each line; it has taken the line when the flush fails.
def write (refusal : Stream → Option IoFault) (id line : String) :
    Device → Except TransportError Unit × Device × List Event
  | .stream stream =>
      match refusal stream with
      | none => (.ok (), .stream stream, [.wrote stream line])
      | some fault => (.error (fault.report id), .stream stream, [])
  | .writer none lines pending => (.ok (), .writer none (lines ++ pending ++ [line]) [], [])
  | .writer (some (.onWrite fault)) lines pending =>
      (.error (fault.report id), .writer (some (.onWrite fault)) lines pending, [])
  | .writer (some (.onFlush fault)) lines pending =>
      (.error (fault.report id), .writer (some (.onFlush fault)) lines (pending ++ [line]), [])

end Console

namespace Transport

def segments (zone : Time.Zone) (t : Transport) : Record.Reading (List String) :=
  match t.sink with
  | .console c => c.segments zone
  | _ => Record.readSegments zone

end Transport

end StructuredLog
