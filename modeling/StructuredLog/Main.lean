import Std.Time.DateTime.Timestamp
import StructuredLog.CommandLine.Run

set_option autoImplicit false

namespace StructuredLog.CommandLine

def variableNames : List String :=
  Config.overrides.map Config.Override.name ++ Diagnostics.variableNames ++ ["CLICOLOR_FORCE"]

def readVariables : List String → IO (List (String × String))
  | [] => return []
  | name :: rest => do
      let more ← readVariables rest
      match ← IO.getEnv name with
      | some value => return (name, value) :: more
      | none => return more

def lookAt (path : String) : IO Config.FileState := do
  try
    return .text (← IO.FS.readFile path)
  catch e =>
    match e with
    | .noFileOrDirectory .. => return .missing
    | e => return .unreadable (toString e)

def surroundings (arguments : List String) : IO Surroundings := do
  let values ← readVariables variableNames
  let now ← Std.Time.Timestamp.now
  let file ← match configFile? arguments with
    | some path => lookAt path
    | none => pure .missing
  return ⟨fun name => values.lookup name, fun _ => file,
    (now.toNanosecondsSinceUnixEpoch.val / 1000).toNat⟩

def performWrites : List Write → IO Unit
  | [] => return
  | w :: rest => do
      match w.stream with
      | .stdout => (← IO.getStdout).putStr w.text
      | .stderr => (← IO.getStderr).putStr w.text
      performWrites rest

end StructuredLog.CommandLine

open StructuredLog.CommandLine in
def main (arguments : List String) : IO UInt32 := do
  let result := run (← surroundings arguments) arguments
  performWrites result.writes
  return result.code.toUInt32
