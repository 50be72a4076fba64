import ProcMeter.Config.Form
import ProcMeter.Files.Basic
import ProcMeter.Json.Reader
import ProcMeter.Path
import ProcMeter.Toml.Record
import ProcMeter.Yaml.Record

/-! Reading configurations. The extension of a file decides in which format it is. -/
namespace ProcMeter

/-- The formats of configurations. -/
inductive ConfigFormat where
  | yaml
  | json
  | toml
  deriving DecidableEq

/-- The format of a file. -/
def ConfigFormat.ofPath (path : String) : ConfigFormat :=
  match (Path.extension? path.toList).map String.ofList with
  | some "json" => .json
  | some "toml" => .toml
  | _ => .yaml

namespace Config

/-- Reads a configuration in a format. -/
def read? (format : ConfigFormat) (cs : List Char) : Option Config :=
  match format with
  | .yaml => do ofRecord? Yaml.Document.records (← Yaml.Document.read? cs)
  | .json => do ofJson? (← Json.parse? cs)
  | .toml => do ofRecord? Toml.Value.records (← Toml.Value.read? cs)

/-- Reads a configuration from the text of a file. -/
def parse (path : String) (cs : List Char) : Except ConfigError Config :=
  match read? (.ofPath path) cs with
  | some c => .ok c
  | none => .error (.malformed path)

/-- Where a configuration is looked for when no file is given. -/
def usualPaths : List String :=
  ["/etc/herakles/proc-sampler.yaml", "/etc/herakles/proc-sampler.yml",
    "/etc/herakles/proc-sampler.json", "./herakles-proc-sampler.yaml",
    "./herakles-proc-sampler.json"]

variable {m : Type → Type} [Monad m]

/-- The first path that leads to something. -/
def firstThere (files : Files m) : List String → m (Option String)
  | [] => return none
  | path :: more => do if ← files.leadsTo path then return some path else firstThere files more

/-- Loads a configuration from a given file, or else from the first of the usual ones that
is there. -/
def load (files : Files m) (path : Option String) : m (Except ConfigError Config) := do
  let path ← match path with
    | some p => pure (some p)
    | none => firstThere files usualPaths
  match path with
  | none => return .ok default
  | some path =>
    match ← files.readText path with
    | .error e => return .error (.unreadable path e)
    | .ok cs => return parse path cs

end Config

end ProcMeter
