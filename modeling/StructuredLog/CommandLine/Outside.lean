import StructuredLog.CommandLine.Arguments
import StructuredLog.CommandLine.Report
import StructuredLog.Diagnostics.Settings
import StructuredLog.Ids
import StructuredLog.Platform

set_option autoImplicit false

namespace StructuredLog.CommandLine

-- What a run takes from others. A reader of arguments answers itself where they ask for no command.
structure Outside where
  arguments : List String → Except Result Invocation
  script : Shell → String
  filters : Diagnostics.FilterReader
  ids : Nat → String
  zone : Time.Zone
  refusal : Stream → Option IoFault

def programName : String := "quill"
def version : String := "0.3.0"

def commandWords : String :=
  " ".intercalate (CommandName.all.map CommandName.text ++ ["help"])

def completions : Shell → String
  | .bash => "complete -W '" ++ commandWords ++ "' " ++ programName ++ "\n"
  | .zsh => "#compdef " ++ programName ++ "\ncompadd " ++ commandWords ++ "\n"
  | .fish => "complete -c " ++ programName ++ " -f -a '" ++ commandWords ++ "'\n"
  | .powershell =>
      "Register-ArgumentCompleter -Native -CommandName '" ++ programName
        ++ "' -ScriptBlock \x7b '" ++ commandWords ++ "' -split ' ' \x7d\n"
  | .elvish =>
      "set edit:completion:arg-completer[" ++ programName ++ "] = \x7b|@words| put "
        ++ commandWords ++ " \x7d\n"

def usageText : String :=
  "Usage: " ++ programName ++ " [--verbose|--quiet] [--color auto|always|never] COMMAND\n\n"
    ++ "Commands:\n"
    ++ "  render TEMPLATE [-p KEY=VALUE]... [--pieces]\n"
    ++ "  check TEMPLATE\n"
    ++ "  emit TEMPLATE [-p KEY=VALUE]... [-l LEVEL] [-c FILE] [--category CATEGORY]\n"
    ++ "  completions bash|elvish|fish|powershell|zsh\n"

def versionLine (command : Option CommandName) : String :=
  programName ++ (match command with | none => "" | some c => "-" ++ c.text) ++ " " ++ version
    ++ "\n"

def Stop.result : Stop → Result
  | .help => ⟨0, [⟨.stdout, usageText⟩]⟩
  | .version command => ⟨0, [⟨.stdout, versionLine command⟩]⟩
  | .usage e => ⟨2, [⟨.stderr, "error: " ++ e.message ++ "\n\n" ++ usageText⟩]⟩

def readArguments (arguments : List String) : Except Result Invocation :=
  if arguments.isEmpty then .error ⟨2, [⟨.stderr, usageText⟩]⟩
  else (read arguments).mapError Stop.result

def Outside.standard : Outside :=
  ⟨readArguments, completions, Diagnostics.Filter.read, IdSource.uuids 0, Time.utc, fun _ => none⟩

end StructuredLog.CommandLine
