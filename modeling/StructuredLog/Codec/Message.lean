import StructuredLog.Codec.Document
import StructuredLog.Record.Basic

set_option autoImplicit false

namespace StructuredLog

open Template

namespace Template

def Position.toJson (p : Position) : Json :=
  .object [("offset", .nat p.offset), ("line", .nat p.line), ("column", .nat p.column)]

def Location.toJson (l : Location) : Json :=
  .object [("start", l.start.toJson), ("end", l.stop.toJson)]

namespace Kind

def name : Kind → String
  | .literal => "literal"
  | .argument => "argument"

def ofName? : String → Option Kind
  | "literal" => some .literal
  | "argument" => some .argument
  | _ => none

end Kind

def Element.toJson (e : Element) : Json :=
  .object [("type", .string e.kind.name), ("value", .string e.value),
    ("location", e.location.toJson)]

def Piece.toJson (p : Piece) : Json :=
  .object [("kind", .string p.kind.name), ("text", .string p.text)]

namespace Fault

def constant : Fault → String
  | .unclosed => "ExpectArgumentClosingBrace"
  | .empty => "EmptyArgument"
  | .malformed => "MalformedArgument"

def ofConstant? : String → Option Fault
  | "ExpectArgumentClosingBrace" => some .unclosed
  | "EmptyArgument" => some .empty
  | "MalformedArgument" => some .malformed
  | _ => none

end Fault

def ParseError.toJson (e : ParseError) : Json :=
  .object [("kind", .string e.fault.constant), ("message", .string e.template),
    ("location", e.location.toJson)]

end Template

def Json.ofTexts (ss : List String) : Json := .array (ss.map .string)

def TemplateParts.toJson (t : TemplateParts) : Json :=
  .object [("parts", .ofTexts t.parts), ("values", .array t.values)]

def RawMessage.toJson : RawMessage → Json
  | .text message => .object [("kind", .string "text"), ("value", .string message)]
  | .template parts => .object [("kind", .string "template"), ("value", parts.toJson)]

def Snapshot.toJson (s : Snapshot) : Json :=
  .object [("level", .string s.level.name), ("category", .ofTexts s.category),
    ("prefix", .string s.label), ("timestamp", .nat s.timestamp),
    ("message", .array (s.message.map Piece.toJson)), ("text", .string s.text),
    ("raw_message", s.raw.toJson), ("properties", .object s.properties)]

namespace Codec

open Document

def position (d : Document) : Option Position :=
  match asFields ["offset", "line", "column"] d with
  | some [offset, line, column] => do
      return ⟨← offset.bind asNatural, ← line.bind asNatural, ← column.bind asNatural⟩
  | _ => none

def location (d : Document) : Option Location :=
  match asFields ["start", "end"] d with
  | some [start, stop] => do return ⟨← start.bind position, ← stop.bind position⟩
  | _ => none

def fault (d : Document) : Option Fault := view.named Fault.ofConstant? d

def level (d : Document) : Option Level := view.named Level.ofName? d

def parseError (d : Document) : Option ParseError :=
  match asFields ["kind", "message", "location"] d with
  | some [kind, message, loc] => do
      return ⟨← kind.bind fault, ← message.bind asText, ← loc.bind location⟩
  | _ => none

section Within

variable (limit : Nesting)

-- The fields besides the kind are held until the kind is known, so each must have a value.
def tagged (tag : String) (d : Document) : Option (Document × Document) :=
  match d with
  | .object fields =>
      let others := fields.filter fun f => f.1 != some tag
      if isSound limit 0 (.object others) then
        match fields.filter fun f => f.1 == some tag with
        | [f] => some (f.2, .object others)
        | _ => none
      else none
  | .array (kind :: rest) =>
      if isSound limit 0 (.array rest) then some (kind, .array rest) else none
  | _ => none

def elementWithin (d : Document) : Option Element :=
  match tagged limit "type" d with
  | some (.string (some name), rest) =>
      match Kind.ofName? name, asFields ["value", "location"] rest with
      | some kind, some [value, loc] => do
          return ⟨kind, ← value.bind asText, ← loc.bind location⟩
      | _, _ => none
  | _ => none

def adjacent (depth : Nat) (tag content : String) (d : Document) :
    Option (Document × Document) :=
  match asFields [tag, content] d with
  | some [some kind, some c] =>
      let tagFirst := match d with
        | .object fields =>
            (fields.find? fun f => f.1 == some tag || f.1 == some content).any fun f =>
              f.1 == some tag
        | _ => true
      if tagFirst || isSound limit (depth + 1) c then some (kind, c) else none
  | _ => none

def pieceWithin (d : Document) : Option Piece :=
  match adjacent limit 0 "kind" "text" d with
  | some (kind, text) => do return ⟨← view.named Kind.ofName? kind, ← asText text⟩
  | none => none

def templatePartsWithin (depth : Nat) (d : Document) : Option TemplateParts :=
  match asFields ["parts", "values"] d with
  | some [parts, values] => do
      return ⟨← parts.bind (view.list asText), ← values.bind (view.list (value? limit (depth + 2)))⟩
  | _ => none

def rawMessageWithin (depth : Nat) (d : Document) : Option RawMessage :=
  match adjacent limit depth "kind" "value" d with
  | none => none
  | some (kind, value) =>
      match asConstant kind with
      | some "text" => (asText value).map .text
      | some "template" => (templatePartsWithin limit (depth + 1) value).map .template
      | _ => none

def propertiesWithin (depth : Nat) (d : Document) : Option Properties :=
  match d.value? limit depth with
  | some (.object fields) => some fields
  | _ => none

def snapshotWithin (d : Document) : Option Snapshot :=
  match asFields ["level", "category", "prefix", "timestamp", "message", "text", "raw_message",
      "properties"] d with
  | some [l, category, label, timestamp, message, text, raw, props] => do
      return ⟨← l.bind level, ← category.bind (view.list asText), ← label.bind asText,
        ← timestamp.bind asNatural, ← message.bind (view.list (pieceWithin limit)), ← text.bind asText,
        ← raw.bind (rawMessageWithin limit 1), ← props.bind (propertiesWithin limit 1)⟩
  | _ => none

end Within

def element (d : Document) : Option Element := elementWithin textNesting d

def piece (d : Document) : Option Piece := pieceWithin textNesting d

def templateParts (depth : Nat) (d : Document) : Option TemplateParts :=
  templatePartsWithin textNesting depth d

def rawMessage (depth : Nat) (d : Document) : Option RawMessage :=
  rawMessageWithin textNesting depth d

def snapshot (d : Document) : Option Snapshot := snapshotWithin textNesting d

end Codec

end StructuredLog
