import ProcMeter.Config.Load
import ProcMeter.Json.Printer
import ProcMeter.Toml.Printer
import ProcMeter.Yaml.Printer

/-! Configurations as text. What is written can be read again in the same format. -/
namespace ProcMeter.Config

/-- A configuration in a format. -/
def render (format : ConfigFormat) (c : Config) : String :=
  match format with
  | .yaml => Yaml.render c.toJson
  | .json => Json.pretty c.toJson
  | .toml => Toml.render c.toJson

end ProcMeter.Config
