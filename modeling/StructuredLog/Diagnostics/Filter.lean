import StructuredLog.Event
import StructuredLog.Text.Digits
import StructuredLog.Text.Letters

set_option autoImplicit false

namespace StructuredLog.Diagnostics

open Text

abbrev Verbosity := Option Severity

-- One directive. One that names a span, or asks for the value of a field, speaks of spans only.
structure Directive where
  target : Option String
  span : Option String
  field : Option (String × Option String)
  verbosity : Verbosity
deriving DecidableEq, Repr

inductive FilterFault where
  | directive
  | level
  | other (text : String)
deriving DecidableEq, Repr

def FilterFault.message : FilterFault → String
  | .directive => "invalid filter directive"
  | .level =>
      "error parsing level filter: expected one of \"off\", \"error\", \"warn\", \"info\", \"debug\", "
        ++ "\"trace\", or a number 0-5"
  | .other text => text

abbrev FilterReader := String → Except FilterFault (Callsite → Bool)

namespace Filter

def ofNumber : Nat → Option Verbosity
  | 0 => some none
  | 1 => some (some .error)
  | 2 => some (some .warn)
  | 3 => some (some .info)
  | 4 => some (some .debug)
  | 5 => some (some .trace)
  | _ => none

def number? (cs : List Char) : Option Nat :=
  match cs with
  | '+' :: rest => naturalOf? 10 rest
  | _ => naturalOf? 10 cs

def level? (cs : List Char) : Option Verbosity :=
  match (number? cs).bind ofNumber with
  | some v => some v
  | none =>
      match asciiLower (String.ofList cs) with
      | "off" => some none
      | "error" => some (some .error)
      | "warn" => some (some .warn)
      | "info" => some (some .info)
      | "debug" => some (some .debug)
      | "trace" => some (some .trace)
      | _ => none

def verbosity : List Char → Except FilterFault Verbosity
  | [] => .ok (some .trace)
  | '=' :: [] => .ok (some .trace)
  | '=' :: rest =>
      match level? rest with
      | some v => .ok v
      | none => .error .level
  | _ => .error .directive

def field (cs : List Char) : String × Option String :=
  match splitOn (· == '=') cs with
  | name :: value :: _ => (String.ofList name, some (String.ofList value))
  | _ => (String.ofList cs, none)

def spanned (target : Option String) (cs : List Char) : Except FilterFault Directive :=
  let name := cs.takeWhile fun c => c != ']' && c != '{'
  match cs.dropWhile fun c => c != ']' && c != '{' with
  | ']' :: rest => do
      return ⟨target, some (String.ofList name), none, ← verbosity rest⟩
  | '{' :: rest =>
      let inside := rest.takeWhile (· != '}')
      match rest.dropWhile (· != '}') with
      | '}' :: ']' :: rest =>
          if inside.isEmpty then .error .directive
          else do
            let span := if name.isEmpty then none else some (String.ofList name)
            return ⟨target, span, some (field inside), ← verbosity rest⟩
      | _ => .error .directive
  | _ => .error .directive

def canStart (c : Char) : Bool := c == '-' || c == ':' || c == '_' || isAlphanumeric c

def directive (cs : List Char) : Except FilterFault Directive :=
  match cs with
  | [] => .error .directive
  | '[' :: rest => spanned none rest
  | c :: _ =>
      if canStart c then
        let name := cs.takeWhile fun c => c != '=' && c != '['
        match cs.dropWhile fun c => c != '=' && c != '[' with
        | [] =>
            match level? name with
            | some v => .ok ⟨none, none, none, v⟩
            | none => .ok ⟨some (String.ofList name), none, none, some .trace⟩
        | '[' :: rest => spanned (some (String.ofList name)) rest
        | rest => do return ⟨some (String.ofList name), none, none, ← verbosity rest⟩
      else .error .directive

def directives : List (List Char) → Except FilterFault (List Directive)
  | [] => .ok []
  | part :: rest => do
      let d ← directive (trim part)
      return d :: (← directives rest)

def parse (text : String) : Except FilterFault (List Directive) :=
  directives ((splitOn (· == ',') text.toList).filter fun part => !part.isEmpty)

def isStatic (d : Directive) : Bool :=
  d.span.isNone && (match d.field with | some (_, some _) => false | _ => true)

def hasField (name : String) (site : Callsite) : Bool :=
  name == "message" || site.fields.contains name

def speaksOf (site : Callsite) (d : Directive) : Bool :=
  isStatic d
    && (match d.target with
        | none => true
        | some t => t.toList.isPrefixOf site.target.toList)
    && (match d.field with
        | none => true
        | some (name, _) => hasField name site)

def specificity (d : Directive) : Nat :=
  (match d.target with | none => 0 | some t => 2 * t.utf8ByteSize + 2)
    + (if d.field.isSome then 1 else 0)

def deciding (site : Callsite) (ds : List Directive) : Option Directive :=
  ds.foldl (fun best d =>
    if speaksOf site d then
      match best with
      | none => some d
      | some b => if specificity b ≤ specificity d then some d else best
    else best) none

def effective (ds : List Directive) : List Directive :=
  if ds.isEmpty then [⟨none, none, none, some .error⟩] else ds

def allows (ds : List Directive) (site : Callsite) : Bool :=
  match deciding site (effective ds) with
  | none => false
  | some d =>
      match d.verbosity with
      | none => false
      | some lowest => lowest.rank ≤ site.severity.rank

-- The directives of a filter, as far as they are read here.
def read : FilterReader := fun text => (parse text).map allows

end Filter

end StructuredLog.Diagnostics
