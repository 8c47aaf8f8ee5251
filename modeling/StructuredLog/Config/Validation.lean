import StructuredLog.Config.Settings

set_option autoImplicit false

namespace StructuredLog.Config

open Text

def LoggerSettings.threshold (s : LoggerSettings) : Except Error Threshold :=
  if allBlank s.lowestLevel then .error (.missing "logger.lowest_level")
  else
    match Threshold.parse? s.lowestLevel with
    | some threshold => .ok threshold
    | none => .error (.invalidValue "logger.lowest_level" (Level.unknown s.lowestLevel))

def LoggerSettings.validate (s : LoggerSettings) : Except Error Unit := do
  let _ ← s.threshold
  if s.category.any allBlank then
    throw (.invalidValue "logger.category" "category segments must not be empty")

def TransportSettings.validate (t : TransportSettings) : Except Error Unit :=
  if t.id.toList.any isBlank then
    .error (.invalidValue "transports.id" ("'" ++ t.id ++ "' must not contain whitespace"))
  else
    match t.kind, t.capacity with
    | .memory, some 0 =>
        .error (.invalidValue "transports.capacity" "capacity must be greater than 0")
    | .memory, _ => .ok ()
    | _, none => .ok ()
    | kind, some _ =>
        .error (.conflict ("capacity only applies to memory transports, not " ++ kind.name))

def validateTransports (seen : List String) : List TransportSettings → Except Error Unit
  | [] => .ok ()
  | t :: rest => do
      t.validate
      match t.explicitId with
      | none => validateTransports seen rest
      | some id =>
          if seen.contains id then
            .error (.conflict ("transport id '" ++ id ++ "' is used more than once"))
          else validateTransports (id :: seen) rest

-- What a filter has to satisfy is for its parser to say; `check` stands for it.
def validateDiagnosticsBy (check : String → Except Diagnostics.Error Unit)
    (s : Diagnostics.Settings) : Except Error Unit :=
  match s.filter with
  | none => .ok ()
  | some filter =>
      match check filter with
      | .ok () => .ok ()
      | .error e => .error (.diagnostics e)

def Settings.validateBy (check : String → Except Diagnostics.Error Unit) (s : Settings) :
    Except Error Unit := do
  s.logger.validate
  validateTransports [] s.transports
  validateDiagnosticsBy check s.diagnostics

def validateDiagnostics (s : Diagnostics.Settings) : Except Error Unit :=
  validateDiagnosticsBy Diagnostics.Settings.checkFilter s

def Settings.validate (s : Settings) : Except Error Unit :=
  s.validateBy Diagnostics.Settings.checkFilter

end StructuredLog.Config
