import ProcMeter.Fault
import ProcMeter.Rate

/-! Where samples come from. A source answers for one process at a time, in
whatever setting `m` the questions are asked: a pure one, one that keeps track
of the questions, or the machine itself. -/
namespace ProcMeter

/-- The processes of a host. -/
structure Source (m : Type → Type) where
  /-- The ids of all processes. -/
  pids : m (Except CycleError (List Pid))
  status : Pid → m (Except SampleError Status)
  /-- The counters, with the time of reading. -/
  sample : Pid → m (Except SampleError Sample)
  /-- Who the process is, with its whole environment. -/
  identity : Pid → m (Except SampleError Identity)
  host : m Host

/-- A source of network counters. -/
abbrev NetworkSource (m : Type → Type) := Pid → m (Except SampleError NetworkCounters)

/-- A source of control groups; none when there is nothing worth reporting. -/
abbrev CgroupSource (m : Type → Type) := Pid → m (Except SampleError (Option CgroupInfo))

/-- A source for hosts whose processes cannot be read. -/
def Source.unsupported {m : Type → Type} [Monad m] (cpus : m UInt64) : Source m where
  pids := return .error .unsupported
  status _ := return .error .unsupported
  sample _ := return .error .unsupported
  identity _ := return .error .unsupported
  host := return ⟨none, ← cpus⟩

end ProcMeter
