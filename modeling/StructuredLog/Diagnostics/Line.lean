import StructuredLog.Diagnostics.Settings
import StructuredLog.Text.Quoted
import StructuredLog.Text.Style
import StructuredLog.Time

set_option autoImplicit false

namespace StructuredLog.Diagnostics

open Text

def severityStyle : Severity → Style
  | .trace => .magenta
  | .debug => .blue
  | .info => .green
  | .warn => .yellow
  | .error => .red

def padLeft (width : Nat) (s : String) : String :=
  String.ofList (List.replicate (width - s.length) ' ') ++ s

def spelledControl (c : Char) : List Char :=
  if c = '\x1b' ∨ c = '\x07' ∨ c = '\x08' ∨ c = '\x0c' ∨ c = '\x7f' then
    ['\\', 'x', Nat.digitChar (c.toNat / 16), Nat.digitChar (c.toNat % 16)]
  else if 0x80 ≤ c.toNat ∧ c.toNat ≤ 0x9f then '\\' :: 'u' :: '{' :: (hexChars c.toNat ++ ['}'])
  else [c]

def withoutControls (s : String) : String := String.ofList (s.toList.flatMap spelledControl)

def shown : FieldValue → String
  | .quoted s => spelledOut s
  | .shown s => s
  | .number n => toString n
  | .flag b => if b then "true" else "false"

def compactLine (s : Settings) (micros : Nat) (d : Diagnostic) : String :=
  let dim := fun (text : String) => Style.paint s.ansi .dim text
  let time := if s.timestamps then dim (Time.stamp micros) ++ " " else ""
  let severity := Style.paint s.ansi (severityStyle d.severity) (padLeft 5 d.severity.name) ++ " "
  let target := if s.targets then dim d.target ++ dim ":" ++ " " else ""
  let fields := d.fields.map fun f =>
    " " ++ Style.paint s.ansi .italic f.1 ++ dim "=" ++ shown f.2
  time ++ severity ++ target ++ withoutControls d.message ++ String.join fields

def jsonLine (s : Settings) (micros : Nat) (d : Diagnostic) : String :=
  let fields := ("message", Json.string d.message) ::
    d.fields.map fun f => (f.1, f.2.toJson)
  (Json.object
    ((if s.timestamps then [("timestamp", .string (Time.stamp micros))] else [])
      ++ [("level", .string d.severity.name), ("fields", .object fields)]
      ++ if s.targets then [("target", .string d.target)] else [])).compact

def written (s : Settings) (micros : Nat) (d : Diagnostic) : String :=
  match s.format with
  | .compact => compactLine s micros d ++ "\n"
  | .json => jsonLine s micros d ++ "\n"
  | .pretty => "  " ++ compactLine s micros d ++ "\n\n"

end StructuredLog.Diagnostics
