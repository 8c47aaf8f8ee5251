import StructuredLog.Codec.Fields
import StructuredLog.Json.Document
import StructuredLog.Diagnostics.Settings
import StructuredLog.Scenario.Step

set_option autoImplicit false

namespace StructuredLog.Codec

open Scenario Template

def templatePartsAt (j : Json) : TemplateParts := ⟨j.textsAt "parts", j.itemsAt "values"⟩

def pieceAt (j : Json) : Piece :=
  ⟨if j.textAt "kind" = "argument" then .argument else .literal, j.textAt "text"⟩

def endingAt (j : Json) : Ending :=
  match j.textAt? "panic" with
  | some message => .panics message
  | none =>
      match j.field "returns" with
      | .array items => .pieces (items.map pieceAt)
      | value =>
          match value.natural? with
          | some n => .call n
          | none => .lastCall

def sourceAt (j : Json) : Source :=
  match j.textAt "kind" with
  | "deferred" =>
      .deferred (j.textAt "message") (match j.textAt? "panic" with
        | some message => .panicked message
        | none => .returned (j.propertiesAt "properties"))
  | "lazy" => .lazily ⟨(j.itemsAt "format").map templatePartsAt, endingAt j⟩
  | "template" => .template (templatePartsAt j)
  | _ => .text (j.textAt "message") (j.propertiesAt "properties")

def levelAt (j : Json) : Level := (Level.parse? (j.textAt "level")).getD .info

def thresholdAt (j : Json) : Threshold :=
  match j.field "level" with
  | .string s => (Threshold.parse? s).getD none
  | _ => none

def formatOfName? : String → Option Config.Format
  | "toml" => some .toml
  | "yaml" => some .yaml
  | "json" => some .json
  | _ => none

def planAt (j : Json) : LoggerPlan :=
  let config := do return (← formatOfName? (j.textAt "format"), ← j.textAt? "config")
  { config := config
    label := j.textAt? "prefix"
    enabled := j.flagAt? "enabled"
    category := if j.has "category" then some (j.textsAt "category") else none
    threshold := if j.has "level" then some (thresholdAt j) else none
    transports := j.textsAt "transports"
    ids := (j.textAt? "ids").getD "sub" }

def layoutAt (j : Json) : Layout :=
  match j.textAt "formatter" with
  | "upper" => .custom [.levelUpper, .text]
  | "empty" => .custom []
  | "raw" => .custom [.category, .raw]
  | _ => .standard

def failureAt (j : Json) : Option WriterFailure :=
  match j.textAt "fail" with
  | "broken_pipe" => some (.onWrite .brokenPipe)
  | "other" => some (.onWrite (.other "disk full"))
  | "flush" => some (.onFlush (.other "flush refused"))
  | _ => none

def sinkAt (j : Json) : Sink :=
  match j.textAt "kind" with
  | "memory" => .memory (j.field "capacity").natural? [] false
  | "failing" => .failing ((j.textAt? "reason").getD "simulated failure") 0
  | "tracing" => .forwarding
  | _ => .console ⟨(j.flagAt? "colors").getD false, layoutAt j, .writer (failureAt j) [] []⟩

def transportAt (j : Json) : Transport :=
  let standard := if j.textAt "kind" = "tracing" then "tracing" else j.textAt "name"
  ⟨(j.textAt? "id").getD standard, (j.flagAt? "enabled").getD true, sinkAt j⟩

def placeAt (j : Json) : Place :=
  match j.textAt? "ctx" with
  | some name => .alone name
  | none => .logger (j.textAt "logger")

def audienceAt (j : Json) : Audience :=
  match j.textAt? "registry" with
  | some name => .registry name
  | none => .logger (j.textAt "logger")

def managedAt (j : Json) : Managed :=
  match j.textAt? "logger" with
  | some name => .copyOf name
  | none => .kept (j.textAt "name")

def managerCallAt (j : Json) : ManagerCall :=
  match j.textAt "call" with
  | "add" => .add (j.textAt "transport")
  | "extend" => .extend (j.textsAt "transports")
  | "collect" => .collect (j.textsAt "transports")
  | "remove" => .remove (j.textAt "id")
  | "get" => .get (j.textAt "id")
  | "enable" => .setEnabled (j.textAt "id") true
  | "disable" => .setEnabled (j.textAt "id") false
  | "enable_all" => .setAllEnabled true
  | "disable_all" => .setAllEnabled false
  | "release" => .release
  | "dispatch" => .dispatch (j.textAt "record")
  | _ => .list

def memoryCallAt (j : Json) : MemoryCall :=
  match j.textAt "get" with
  | "messages" => .messages
  | "last" => .last
  | "len" => .size
  | "at" => .atLevel (levelAt j)
  | "clear" => .clear
  | _ => .records

def questionOf? : String → Option Question
  | "text" => some .text
  | "message" => some .message
  | "raw" => some .raw
  | "raw_display" => some .rawDisplay
  | "properties" => some .properties
  | "resolved" => some .resolved
  | "snapshot" => some .snapshot
  | "level" => some .level
  | "category" => some .category
  | "prefix" => some .label
  | "timestamp" => some .timestamp
  | "segments" => some .segments
  | _ => none

def questionsAt (name : String) (j : Json) : List Question :=
  (j.textsAt name).filterMap questionOf?

def headerAt (j : Json) : Header :=
  ⟨levelAt j, j.textsAt "category", j.textAt "prefix", ((j.field "timestamp").natural?).getD 0⟩

def inspectedAt (j : Json) : Inspected :=
  let name := j.textAt "name"
  match j.textAt "of" with
  | "logger" => .logger name
  | "context" => .scopes name
  | "manager" => .manager name
  | "registry" => .registry name
  | "record" => .record name
  | "console" => .console name
  | "target" =>
      .stream name ((Diagnostics.streamOfName? (j.textAt "target")).getD .stderr)
  | "config" => .options (j.textAt "prefix") (thresholdAt j) (j.textsAt "transports")
  | _ => .source (sourceAt (j.field "source"))

def shortSourceAt (j : Json) : Source :=
  let a := j.field "a"
  let b := j.field "b"
  .text (j.textAt "message") (if a.isNull && b.isNull then [] else [("a", a), ("b", b)])

def stepAt (word : String) (actions : List (String × Step)) (j : Json) : Option Step :=
  let name := j.textAt "name"
  let logger := j.textAt "logger"
  match word with
  | "new" =>
      some (if j.flagAt? "default" = some true then .standardLogger logger
        else .newLogger logger (planAt j))
  | "child" => some (.child logger name (j.textAt "as"))
  | "state" => some (.state logger)
  | "enable" => some (.setEnabled logger true)
  | "disable" => some (.setEnabled logger false)
  | "set_prefix" => some (.setLabel logger (j.textAt "prefix"))
  | "set_level" => some (.setThreshold logger (thresholdAt j))
  | "add_transport" => some (.attach logger (j.textAt "transport"))
  | "remove_transport" => some (.detach logger (j.textAt "id"))
  | "release_transports" => some (.detachAll logger)
  | "accepts" => some (.accepted logger)
  | "drop_logger" => some (.dropLogger logger)
  | "log" => some (.log logger (levelAt j) (sourceAt (j.field "source")))
  | "macro" => some (.log logger (levelAt j) (shortSourceAt j))
  | "transport" => some (.newTransport name (transportAt j))
  | "set_enabled" => some (.setTransport name ((j.flagAt? "enabled").getD false))
  | "lines" => some (.lines name)
  | "attempts" => some (.attempts name)
  | "memory" => some (.memory name (memoryCallAt j))
  | "send" => some (.send name (j.textAt "record"))
  | "formatter" => some (.segments name (j.textAt "record"))
  | "render" => some (.render name (j.textAt "record"))
  | "manager" => some (.manager (managedAt j) (managerCallAt j))
  | "registry" =>
      some (if j.flagAt? "uuid" = some true then .randomRegistry name
        else .newRegistry name (j.textAt "ids"))
  | "drop_registry" => some (.dropRegistry name)
  | "subscribe" =>
      some (.subscribe (j.textAt "sub") (audienceAt j) (questionsAt "reads" j) actions
        (j.textAt? "panic"))
  | "unsubscribe" => some (.unsubscribe (j.textAt "sub"))
  | "active" => some (.active (j.textAt "sub"))
  | "subscribers" => some (.subscribers (audienceAt j))
  | "clear_subscribers" => some (.clearSubscribers (audienceAt j))
  | "notify" => some (.notify (j.textAt "registry") (j.textAt "record") (levelAt j))
  | "set" => some (.set (placeAt j) (j.textAt "key") (j.field "value"))
  | "get" => some (.get (placeAt j) (j.textAt "key"))
  | "store" => some (.store (placeAt j))
  | "contexts" => some (.scopes (placeAt j))
  | "merged" => some (.merged (placeAt j) (j.propertiesAt "properties"))
  | "record" =>
      some (.record name (headerAt (j.field "header")) (sourceAt (j.field "source")) (placeAt j))
  | "read" => some (.read (j.textAt "record") (questionsAt "what" j))
  | "debug" => some (.inspect (inspectedAt j))
  | _ => none

mutual
def stepOf? : Nat → Json → Option (String × Step)
  | 0, _ => none
  | depth + 1, j =>
      let word := j.textAt "do"
      (stepAt word (actionsOf depth (j.itemsAt "actions")) j).map fun step => (word, step)
def actionsOf : Nat → List Json → List (String × Step)
  | _, [] => []
  | depth, j :: rest =>
      match stepOf? depth j with
      | some action => action :: actionsOf depth rest
      | none => actionsOf depth rest
end

mutual
def blockOf? : Nat → Json → Option Block
  | 0, _ => none
  | depth + 1, j =>
      match j.textAt "do" with
      | "scope" =>
          some (.scope (placeAt j) (j.propertiesAt "context") (blocksOf depth (j.itemsAt "body")))
      | "catch" => some (.caught (blocksOf depth (j.itemsAt "body")))
      | "panic" => some (.panic (j.textAt "message"))
      | _ => (stepOf? (depth + 1) j).map fun (_, step) => .step step
def blocksOf : Nat → List Json → List Block
  | _, [] => []
  | depth, j :: rest =>
      match blockOf? depth j with
      | some block => block :: blocksOf depth rest
      | none => blocksOf depth rest
end

def scriptOf (j : Json) : List Block := blocksOf Document.maxDepth j.items

end StructuredLog.Codec
