import StructuredLog.Codec.Message
import StructuredLog.Config.Settings

set_option autoImplicit false

namespace StructuredLog

open Config

def Json.whenSet (name : String) : Option Json → List (String × Json)
  | none => []
  | some value => [(name, value)]

def Config.LoggerSettings.toJson (s : LoggerSettings) : Json :=
  .object [("prefix", .string s.label), ("enabled", .bool s.enabled),
    ("category", .ofTexts s.category), ("lowest_level", .string s.lowestLevel)]

def Config.TransportSettings.toJson (t : TransportSettings) : Json :=
  .object ([("kind", .string t.kind.name), ("id", .string t.id), ("enabled", .bool t.enabled),
      ("target", .string (Diagnostics.streamName t.target))]
    ++ Json.whenSet "color" (t.color.map .bool) ++ Json.whenSet "capacity" (t.capacity.map .nat))

def Diagnostics.Settings.toJson (s : Diagnostics.Settings) : Json :=
  .object ([("format", .string s.format.name)] ++ Json.whenSet "filter" (s.filter.map .string)
    ++ [("ansi", .bool s.ansi), ("timestamps", .bool s.timestamps), ("targets", .bool s.targets),
      ("output", .string (Diagnostics.streamName s.output))])

def Config.Settings.toJson (s : Config.Settings) : Json :=
  .object [("logger", s.logger.toJson), ("transports", .array (s.transports.map (·.toJson))),
    ("diagnostics", s.diagnostics.toJson)]

namespace Codec

variable {ν : Type}

def stream (view : View ν) (d : ν) : Option Stream := view.named Diagnostics.streamOfName? d

def transportKind (view : View ν) (d : ν) : Option TransportKind :=
  view.named TransportKind.ofName? d

def loggerSettings (view : View ν) (d : ν) : Option LoggerSettings :=
  let standard := LoggerSettings.standard
  match view.fields ["prefix", "enabled", "category", "lowest_level"] d with
  | some [label, enabled, category, lowestLevel] => do
      return ⟨← View.orElse standard.label view.text label,
        ← View.orElse standard.enabled view.flag enabled,
        ← View.orElse standard.category (view.list view.text) category,
        ← View.orElse standard.lowestLevel view.text lowestLevel⟩
  | _ => none

def transportSettings (view : View ν) (d : ν) : Option TransportSettings :=
  let standard := TransportSettings.standard
  match view.fields ["kind", "id", "enabled", "target", "color", "capacity"] d with
  | some [kind, id, enabled, target, color, capacity] => do
      return ⟨← View.orElse standard.kind (transportKind view) kind,
        ← View.orElse standard.id view.text id,
        ← View.orElse standard.enabled view.flag enabled,
        ← View.orElse standard.target (stream view) target,
        ← View.orElse standard.color (view.optional view.flag) color,
        ← View.orElse standard.capacity (view.optional view.natural) capacity⟩
  | _ => none

def diagnosticsSettings (view : View ν) (d : ν) : Option Diagnostics.Settings :=
  let standard := Diagnostics.Settings.standard
  match view.fields ["format", "filter", "ansi", "timestamps", "targets", "output"] d with
  | some [format, filter, ansi, timestamps, targets, output] => do
      return ⟨← View.orElse standard.format (view.named Diagnostics.Format.ofName?) format,
        ← View.orElse standard.filter (view.optional view.text) filter,
        ← View.orElse standard.ansi view.flag ansi,
        ← View.orElse standard.timestamps view.flag timestamps,
        ← View.orElse standard.targets view.flag targets,
        ← View.orElse standard.output (stream view) output⟩
  | _ => none

def settings (view : View ν) (d : ν) : Option Config.Settings :=
  let standard := Config.Settings.standard
  match view.fields ["logger", "transports", "diagnostics"] d with
  | some [logger, transports, diagnostics] => do
      return ⟨← View.orElse standard.logger (loggerSettings view) logger,
        ← View.orElse standard.transports (view.list (transportSettings view)) transports,
        ← View.orElse standard.diagnostics (diagnosticsSettings view) diagnostics⟩
  | _ => none

end Codec

end StructuredLog
