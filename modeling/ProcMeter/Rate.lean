import ProcMeter.Process.State

/-! Shares of CPU and memory. Ticks are milliseconds, so ticks consumed over
milliseconds elapsed is the share of one CPU. A counter that went backwards
counts as one that stood still. No share is given where a tick count is missing
or where the clock did not move forward by a whole microsecond. -/
namespace ProcMeter

namespace Rate

/-- To four decimal places; a half goes away from zero. -/
def round4 (x : Float) : Float := (x * 10000.0).round / 10000.0

/-- The shares of one CPU and of all, for ticks consumed in microseconds. -/
def shares (consumed : UInt64) (micros : UInt64) (cpus : UInt64) : Float × Float :=
  let pct := consumed.toFloat / (micros.toFloat / 1000.0)
  (round4 pct, round4 (pct / (max cpus 1).toFloat))

/-- Microseconds from one sample to the next, when there are any. -/
def elapsed? (prev curr : Sample) : Option UInt64 :=
  match Instant.microsBetween? prev.time curr.time with
  | some micros => if 0 < micros then some (UInt64.ofNat micros.toNat) else none
  | none => none

/-- The difference, or zero when it would be negative. -/
def consumed (prev curr : UInt64) : UInt64 := if prev ≤ curr then curr - prev else 0

/-- The share of one kind of CPU time. -/
def cpuShare (prev curr : Option UInt64) (micros cpus : UInt64) : CpuShare :=
  match prev, curr with
  | some p, some c =>
    let (pct, normPct) := shares (consumed p c) micros cpus
    ⟨some c, some pct, some normPct⟩
  | _, _ => ⟨curr, none, none⟩

/-- The CPU use of `curr` with its shares since `prev`; as it was read when no
time passed. -/
def cpuUse (prev curr : Sample) (cpus : UInt64) : CpuUse :=
  match elapsed? prev curr with
  | none => curr.cpu
  | some micros =>
    ⟨cpuShare prev.cpu.user.ticks curr.cpu.user.ticks micros cpus,
      cpuShare prev.cpu.system.ticks curr.cpu.system.ticks micros cpus,
      cpuShare prev.cpu.total.ticks curr.cpu.total.ticks micros cpus,
      curr.cpu.startTime⟩

/-- Resident bytes as a share of the host's memory. -/
def memoryShare (rss total : Option UInt64) : Option Float :=
  match rss, total with
  | some r, some t => if 0 < t then some (round4 (r.toFloat / t.toFloat)) else none
  | _, _ => none

end Rate

/-- Totals of the host, against which shares are taken. -/
structure Host where
  totalMemory : Option UInt64
  cpus : UInt64
  deriving DecidableEq

/-- Adds the shares since `prev`, if that is an earlier state of this process. -/
def ProcState.ratedAgainst (s : ProcState) (prev : Option ProcState) (host : Host) : ProcState :=
  match prev with
  | none => s
  | some p =>
    if p.sameProcess s.status then
      { s with
        cpu := Rate.cpuUse p.toSample s.toSample host.cpus
        memory := { s.memory with
          rss := { s.memory.rss with pct := Rate.memoryShare s.memory.rss.bytes host.totalMemory } } }
    else s

end ProcMeter
