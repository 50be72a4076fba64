import ProcMeter.Config
import ProcMeter.Procfs.Reader

/-! What a sampler needs of the machine that it runs on, and engines over its `/proc`. -/
namespace ProcMeter

structure Machine (m : Type → Type) where
  files : Files m
  surroundings : Procfs.Surroundings m
  units : Procfs.Units
  /-- A clock in milliseconds that never goes back. -/
  stopwatch : m Float
  /-- Waits between the two samples of a report. -/
  pause : m Unit
  /-- The sampler's own process. -/
  ownPid : m Pid

namespace Machine

variable {m : Type → Type} [Monad m]

/-- An engine over a reader of `/proc`. -/
def engineOver (w : Machine m) (c : Config) (rules : Rules) (reader : Procfs.Reader m) : Engine m where
  rules := rules
  source := reader.source
  network := if c.enableNetwork then some reader.network else none
  cgroups := if c.enableCgroups then some (reader.cgroups c.ignoreRootCgroups) else none
  stopwatch := w.stopwatch

/-- The engine that a configuration describes. The boot time is read now. -/
def engine (w : Machine m) (c : Config) (rules : Rules) : m (Engine m) := do
  let reader ← Procfs.Reader.start w.files w.surroundings w.units ⟨c.hostfs⟩
  return w.engineOver c rules reader

end Machine

end ProcMeter
