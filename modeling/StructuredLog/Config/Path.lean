import StructuredLog.Config.Settings

set_option autoImplicit false

namespace StructuredLog.Config

-- Empty components and `.` do not count, and `..` at the end names nothing.
def fileName? (path : String) : Option String :=
  match ((Text.pieces '/' path).filter fun c => c != "" && c != ".").getLast? with
  | none => none
  | some ".." => none
  | some name => some name

def extension? (path : String) : Option String :=
  (fileName? path).bind fun name =>
    match (Text.splitOn (· == '.') name.toList).reverse with
    | last :: before :: more =>
        if before.isEmpty && more.isEmpty then none else some (String.ofList last)
    | _ => none

def Format.ofPath (path : String) : Except Error Format :=
  match extension? path with
  | some "toml" => .ok .toml
  | some "yaml" => .ok .yaml
  | some "yml" => .ok .yaml
  | some "json" => .ok .json
  | some other => .error (.unsupportedFormat other)
  | none => .error (.invalidPath path)

end StructuredLog.Config
