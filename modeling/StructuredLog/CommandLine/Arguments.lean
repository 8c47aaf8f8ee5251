import StructuredLog.Json.Reader
import StructuredLog.Level

set_option autoImplicit false

namespace StructuredLog.CommandLine

open Text

inductive ColorChoice where
  | auto
  | always
  | never
deriving DecidableEq, Repr

def ColorChoice.ofName? : String → Option ColorChoice
  | "auto" => some .auto
  | "always" => some .always
  | "never" => some .never
  | _ => none

inductive Shell where
  | bash
  | elvish
  | fish
  | powershell
  | zsh
deriving DecidableEq, Repr

def Shell.ofName? : String → Option Shell
  | "bash" => some .bash
  | "elvish" => some .elvish
  | "fish" => some .fish
  | "powershell" => some .powershell
  | "zsh" => some .zsh
  | _ => none

inductive CommandName where
  | render
  | check
  | emit
  | completions
deriving DecidableEq, Repr

namespace CommandName

def all : List CommandName := [.render, .check, .emit, .completions]

def text : CommandName → String
  | .render => "render"
  | .check => "check"
  | .emit => "emit"
  | .completions => "completions"

def ofName? (s : String) : Option CommandName := all.find? fun c => c.text == s

end CommandName

inductive Flag where
  | verbose
  | quiet
  | pieces
deriving DecidableEq, Repr

inductive Valued where
  | color
  | property
  | level
  | config
  | category
deriving DecidableEq, Repr

inductive Meaning where
  | flag (flag : Flag)
  | valued (valued : Valued)
  | help
  | version

inductive UsageError where
  | unexpected (argument : String)
  | missingValue (option : String)
  | invalidValue (option value : String)
  | repeated (option : String)
  | missingTemplate
  | missingShell
  | missingCommand
  | verboseAndQuiet
deriving DecidableEq, Repr

def UsageError.message : UsageError → String
  | .unexpected argument => "unexpected argument '" ++ argument ++ "'"
  | .missingValue option => "a value is required for '" ++ option ++ "'"
  | .invalidValue option value => "invalid value '" ++ value ++ "' for '" ++ option ++ "'"
  | .repeated option => "'" ++ option ++ "' cannot be used more than once"
  | .missingTemplate => "a template is required"
  | .missingShell => "a shell is required"
  | .missingCommand => "a command is required: render, check, emit or completions"
  | .verboseAndQuiet => "'--verbose' cannot be used with '--quiet'"

def takes : Option CommandName → Meaning → Bool
  | some .render, .valued .property => true
  | some .render, .flag .pieces => true
  | some .emit, .valued .property => true
  | some .emit, .valued .level => true
  | some .emit, .valued .config => true
  | some .emit, .valued .category => true
  | _, .flag .verbose => true
  | _, .flag .quiet => true
  | _, .valued .color => true
  | _, .help => true
  | _, .version => true
  | _, _ => false

def ofShort? : Char → Option Meaning
  | 'v' => some (.flag .verbose)
  | 'q' => some (.flag .quiet)
  | 'p' => some (.valued .property)
  | 'l' => some (.valued .level)
  | 'c' => some (.valued .config)
  | 'h' => some .help
  | 'V' => some .version
  | _ => none

def ofLong? : String → Option Meaning
  | "verbose" => some (.flag .verbose)
  | "quiet" => some (.flag .quiet)
  | "pieces" => some (.flag .pieces)
  | "color" => some (.valued .color)
  | "property" => some (.valued .property)
  | "level" => some (.valued .level)
  | "config" => some (.valued .config)
  | "category" => some (.valued .category)
  | "help" => some .help
  | "version" => some .version
  | _ => none

def Flag.name : Flag → String
  | .verbose => "--verbose"
  | .quiet => "--quiet"
  | .pieces => "--pieces"

def Valued.name : Valued → String
  | .color => "--color"
  | .property => "--property"
  | .level => "--level"
  | .config => "--config"
  | .category => "--category"

inductive Item where
  | flag (flag : Flag)
  | valued (valued : Valued) (value : String)
  | help
  | version
  | positional (text : String)
  | command (name : String) (rest : List String)
  | fault (error : UsageError)

def isOption (argument : String) : Bool :=
  match argument.toList with
  | '-' :: _ :: _ => true
  | _ => false

def attached (cs : List Char) : Option String :=
  match cs with
  | '=' :: value => some (String.ofList value)
  | _ => none

abbrev Reading := List Item × Option Valued

def readLong (command : Option CommandName) (argument : String) (cs : List Char) : Reading :=
  let name := String.ofList (cs.takeWhile (· != '='))
  let value := attached (cs.dropWhile (· != '='))
  match (ofLong? name).filter (takes command), value with
  | some (.flag f), none => ([.flag f], none)
  | some .help, none => ([.help], none)
  | some .version, none => ([.version], none)
  | some (.valued v), some value => ([.valued v value], none)
  | some (.valued v), none => ([], some v)
  | _, _ => ([.fault (.unexpected argument)], none)

def readShort (command : Option CommandName) (argument : String) : List Char → Reading
  | [] => ([], none)
  | c :: rest =>
      match (ofShort? c).filter (takes command) with
      | some (.flag f) =>
          let (items, waiting) := readShort command argument rest
          (.flag f :: items, waiting)
      | some .help => ([.help], none)
      | some .version => ([.version], none)
      | some (.valued v) =>
          if rest.isEmpty then ([], some v)
          else ([.valued v ((attached rest).getD (String.ofList rest))], none)
      | none => ([.fault (.unexpected argument)], none)

def readOption (command : Option CommandName) (argument : String) : Reading :=
  match argument.toList with
  | '-' :: '-' :: cs => readLong command argument cs
  | '-' :: cs => readShort command argument cs
  | _ => ([.positional argument], none)

def items (command : Option CommandName) : List String → List Item
  | [] => []
  | argument :: rest =>
      if argument = "--" then rest.map .positional
      else if isOption argument then
        match readOption command argument with
        | (read, none) => read ++ items command rest
        | (read, some v) =>
            match rest with
            | [] => read ++ [.fault (.missingValue v.name)]
            | value :: rest =>
                if isOption value then read ++ [.fault (.missingValue v.name)]
                else read ++ .valued v value :: items command rest
      else if command.isNone then [.command argument rest]
      else .positional argument :: items command rest

structure Collected where
  verbose : Bool
  quiet : Bool
  pieces : Bool
  color : Option ColorChoice
  properties : List (String × Json)
  level : Option Level
  config : Option String
  category : Option String
  positional : Option String

def Collected.nothing : Collected := ⟨false, false, false, none, [], none, none, none, none⟩

inductive Stop where
  | usage (error : UsageError)
  | help
  | version (command : Option CommandName)

def property? (argument : String) : Option (String × Json) :=
  let cs := argument.toList
  let key := trim (cs.takeWhile (· != '='))
  match attached (cs.dropWhile (· != '=')) with
  | none => none
  | some raw =>
      if key.isEmpty then none else some (String.ofList key, (Json.read? raw).getD (.string raw))

def once {α : Type} (v : Valued) (text : String) (given : Option α) (value : Option α) :
    Except Stop (Option α) :=
  match value with
  | none => .error (.usage (.invalidValue v.name text))
  | some value => if given.isSome then .error (.usage (.repeated v.name)) else .ok (some value)

def flagOnce (f : Flag) (given : Bool) : Except Stop Bool :=
  if given then .error (.usage (.repeated f.name)) else .ok true

def Collected.setFlag (c : Collected) : Flag → Except Stop Collected
  | .verbose => do return { c with verbose := ← flagOnce .verbose c.verbose }
  | .quiet => do return { c with quiet := ← flagOnce .quiet c.quiet }
  | .pieces => do return { c with pieces := ← flagOnce .pieces c.pieces }

def Collected.setValue (c : Collected) (text : String) : Valued → Except Stop Collected
  | .color => do return { c with color := ← once .color text c.color (ColorChoice.ofName? text) }
  | .property =>
      match property? text with
      | some p => .ok { c with properties := c.properties ++ [p] }
      | none => .error (.usage (.invalidValue "--property" text))
  | .level => do return { c with level := ← once .level text c.level (Level.parse? text) }
  | .config => do
      let path := if text.isEmpty then none else some text
      return { c with config := ← once .config text c.config path }
  | .category => do return { c with category := ← once .category text c.category (some text) }

-- The first argument that cannot be used, or that asks for help or the version, decides.
def collect (command : Option CommandName) (c : Collected) :
    List Item → Except Stop (Collected × Option (String × List String))
  | [] => .ok (c, none)
  | item :: rest =>
      match item with
      | .flag f => do collect command (← c.setFlag f) rest
      | .valued v text => do collect command (← c.setValue text v) rest
      | .help => .error .help
      | .version => .error (.version command)
      | .positional text =>
          if command.isNone || c.positional.isSome then .error (.usage (.unexpected text))
          else collect command { c with positional := some text } rest
      | .command name rest => .ok (c, some (name, rest))
      | .fault e => .error (.usage e)

inductive Command where
  | render (template : String) (properties : Properties) (pieces : Bool)
  | check (template : String)
  | emit (template : String) (properties : Properties) (level : Level) (config : Option String)
      (category : Option String)
  | completions (shell : Shell)

structure Globals where
  verbose : Bool
  quiet : Bool
  color : ColorChoice
deriving DecidableEq, Repr

structure Invocation where
  globals : Globals
  command : Command

def Collected.checked (c : Collected) : Except Stop Unit :=
  if c.verbose && c.quiet then .error (.usage .verboseAndQuiet) else .ok ()

def Collected.template (c : Collected) : Except Stop String :=
  match c.positional with
  | some t => .ok t
  | none => .error (.usage .missingTemplate)

def Collected.command (c : Collected) : CommandName → Except Stop Command
  | .render => do return .render (← c.template) (Properties.ofFields c.properties) c.pieces
  | .check => do return .check (← c.template)
  | .emit => do
      return .emit (← c.template) (Properties.ofFields c.properties) (c.level.getD .info) c.config
        c.category
  | .completions =>
      match c.positional with
      | none => .error (.usage .missingShell)
      | some name =>
          match Shell.ofName? name with
          | some shell => .ok (.completions shell)
          | none => .error (.usage (.invalidValue "shell" name))

-- An option of every command may stand before the command and after it; the one after it counts.
def invocation (before : Collected) (name : CommandName) (rest : List String) :
    Except Stop Invocation := do
  let (after, _) ← collect (some name) .nothing (items (some name) rest)
  after.checked
  let command ← after.command name
  before.checked
  return ⟨⟨before.verbose || after.verbose, before.quiet || after.quiet,
    (after.color.orElse fun _ => before.color).getD .auto⟩, command⟩

def read (arguments : List String) : Except Stop Invocation := do
  match ← collect none .nothing (items none arguments) with
  | (_, none) => .error (.usage .missingCommand)
  | (before, some (word, rest)) =>
      match CommandName.ofName? word with
      | some name => invocation before name rest
      | none =>
          if word = "help" && rest.all fun w => (CommandName.ofName? w).isSome then .error .help
          else .error (.usage (.unexpected word))

end StructuredLog.CommandLine
