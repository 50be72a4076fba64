import ProcMeter.Command.Report
import ProcMeter.Machine

/-! A check of the machine: whether the configuration makes an engine, whether `/proc` can
be read, and whether processes can be listed and sampled. -/
namespace ProcMeter

/-- What was found out about one thing. -/
structure Finding where
  isGood : Bool
  text : String

namespace Finding

def mark (f : Finding) : String := if f.isGood then "✅" else "❌"

def line (f : Finding) : String := s!"   {f.mark} {f.text}\n"

def lines (fs : List Finding) : String := String.join (fs.map line)

end Finding

namespace Check

/-- A heading with an empty line before it. -/
def heading (s : String) : String := s!"\n{s}\n"

def title : String :=
  "🔍 Herakles Process Sampler - System Check\n===========================================\n"

/-- A number of bytes in units of 1024 times 1024 bytes. -/
def megabytes (bytes : UInt64) : UInt64 := bytes / 1024 / 1024

variable {m : Type → Type} [Monad m]

/-- Whether there are processes and facts to be read. -/
def ofFiles (w : Machine m) (resolver : Resolver) : m (List Finding) := do
  let root := resolver.resolve "/proc"
  let isThere ← w.files.leadsTo root
  let memory ← Procfs.readTotalMemory w.files resolver
  let cpus ← w.surroundings.cpus
  return [
    ⟨isThere, if isThere then s!"{root} accessible" else s!"{root} not found"⟩,
    match memory with
      | .ok bytes => ⟨true, s!"Total memory: {megabytes bytes} MB"⟩
      | .error e => ⟨false, e.message⟩,
    ⟨true, s!"Logical CPUs: {cpus}"⟩]

/-- Whether processes can be listed. -/
def ofListing (e : Engine m) : m Finding := do
  match ← e.listStates with
  | .ok entries => return ⟨true, s!"Enumerated {entries.length} matching processes"⟩
  | .error err => return ⟨false, s!"Cannot enumerate processes: {err.message}"⟩

/-- Whether the sampler can sample itself. -/
def ofSelf (w : Machine m) (e : Engine m) : m Finding := do
  let (result, _) ← e.sampleOne .empty (← w.ownPid)
  match result with
  | .ok s =>
    return ⟨true,
      s!"Sampled self: {s.status.name} (PID: {s.status.pid.toInt}, state: {s.status.state.word})"⟩
  | .error err => return ⟨false, s!"Cannot sample own process: {err.message}"⟩

/-- Whether an engine works. The sampler's own process can only be expected in the
`/proc` of its own machine. -/
def ofEngine (w : Machine m) (resolver : Resolver) (e : Engine m) : m (List Finding) := do
  let listing ← ofListing e
  if resolver.isSet then return [listing] else return [listing, ← ofSelf w e]

/-- Checks a machine. The answer is what to print, and whether all is well. -/
def run (w : Machine m) (compile : String → Option (String → Bool)) (c : Config) :
    m (String × Bool) := do
  let resolver : Resolver := ⟨c.hostfs⟩
  let rules := c.rules compile
  let config : Finding := match rules with
    | .ok _ => ⟨true, "Configuration is valid"⟩
    | .error e => ⟨false, s!"Configuration invalid: {e.message}"⟩
  let files ← ofFiles w resolver
  let sampling ← match rules with
    | .ok rules => do pure (some (← ofEngine w resolver (← w.engine c rules)))
    | .error _ => pure none
  let isGood := (config :: files ++ sampling.getD []).all Finding.isGood
  let summary : Finding :=
    if isGood then ⟨true, "All checks passed - system is ready"⟩
    else ⟨false, "Some checks failed - please review warnings"⟩
  let samplingText := match sampling with
    | some fs => heading "🧪 Checking process sampling..." ++ Finding.lines fs
    | none => ""
  return (
    title ++ heading "⚙️  Checking configuration..." ++ config.line ++
      heading "📁 Checking /proc filesystem..." ++ Finding.lines files ++ samplingText ++
      heading "📋 Summary:" ++ summary.line,
    isGood)

end Check

end ProcMeter
