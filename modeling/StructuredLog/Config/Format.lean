set_option autoImplicit false

namespace StructuredLog.Config

inductive Format where
  | toml
  | yaml
  | json
deriving DecidableEq, Repr

def Format.name : Format → String
  | .toml => "TOML"
  | .yaml => "YAML"
  | .json => "JSON"

end StructuredLog.Config
