import ProcMeter.Dict
import ProcMeter.Instant
import ProcMeter.Matcher

/-! What is known about a process. A field that was not read, or cannot be
computed yet, is absent; absent never stands for zero. Ticks are milliseconds of
CPU time, and memory is in bytes. -/
namespace ProcMeter

/-- A process id. -/
abbrev Pid := Int32

/-- The scheduler's state of a process. -/
inductive RunState where
  | running
  | sleeping
  | diskSleep
  | idle
  | stopped
  | zombie
  | dead
  | unknown
  deriving DecidableEq

namespace RunState

/-- From the state letter of a process's stat line. -/
def ofLetter (c : Char) : RunState :=
  if c = 'R' then .running
  else if c = 'S' then .sleeping
  else if c = 'D' then .diskSleep
  else if c = 'I' then .idle
  else if c = 'T' ∨ c = 't' then .stopped
  else if c = 'Z' then .zombie
  else if c = 'X' ∨ c = 'x' then .dead
  else .unknown

def word : RunState → String
  | .running => "running"
  | .sleeping => "sleeping"
  | .diskSleep => "disk_sleep"
  | .idle => "idle"
  | .stopped => "stopped"
  | .zombie => "zombie"
  | .dead => "dead"
  | .unknown => "unknown"

end RunState

/-- What is read of every process in every cycle, before its name is matched. -/
structure Status where
  pid : Pid
  ppid : Option Int32
  pgid : Option Int32
  name : String
  state : RunState
  /-- Clock ticks from boot to the start of the process; tells it from another
  process that had the same pid. -/
  startTicks : Option UInt64
  deriving DecidableEq

/-- What stays the same as long as a process lives, and is costly to read. -/
structure Identity where
  username : Option String
  cwd : Option String
  args : List String
  cmdline : Option String
  env : Option (Dict String)
  deriving DecidableEq

/-- The identity of which nothing is known. -/
def Identity.blank : Identity := ⟨none, none, [], none, none⟩

/-- Keeps the variables whose names the whitelist accepts; an empty whitelist
drops the environment as a whole. -/
def Identity.restrictEnv (i : Identity) (whitelist : Matcher) : Identity :=
  if whitelist.isEmpty then { i with env := none }
  else { i with env := i.env.map fun e => e.filter fun name _ => whitelist.accepts name }

theorem Identity.restrictEnv_env_of_isEmpty {whitelist : Matcher} (none : whitelist.isEmpty = true)
    (i : Identity) : (i.restrictEnv whitelist).env = .none := by
  rw [restrictEnv, if_pos none]

/-- A variable is kept, with its value, just when the whitelist accepts its name. -/
theorem Identity.restrictEnv_env {i : Identity} {env : Dict String} {whitelist : Matcher}
    (some : whitelist.isEmpty = false) (given : i.env = .some env) :
    ∃ kept, (i.restrictEnv whitelist).env = .some kept ∧
      ∀ name, kept[name]? = if whitelist.accepts name then env[name]? else none := by
  refine ⟨env.filter fun name _ => whitelist.accepts name, ?_, fun name => ?_⟩
  · simp [restrictEnv, some, given]
  · exact Dict.getElem?_filter_name env whitelist.accepts name

/-- CPU time, and the shares of wall-clock time that it comes to: of one CPU,
and of all. -/
structure CpuShare where
  ticks : Option UInt64
  pct : Option Float
  normPct : Option Float

def CpuShare.none : CpuShare := ⟨.none, .none, .none⟩

def CpuShare.ofTicks (n : UInt64) : CpuShare := ⟨some n, .none, .none⟩

structure CpuUse where
  user : CpuShare
  system : CpuShare
  total : CpuShare
  startTime : Option Instant

inductive CpuKind where
  | user
  | system
  | total
  deriving DecidableEq

def CpuUse.share (c : CpuUse) : CpuKind → CpuShare
  | .user => c.user
  | .system => c.system
  | .total => c.total

structure MemoryShare where
  bytes : Option UInt64
  /-- The share of the host's memory. -/
  pct : Option Float

structure MemoryUse where
  size : Option UInt64
  rss : MemoryShare
  share : Option UInt64

/-- The counters of a process at one time. -/
structure Sample where
  cpu : CpuUse
  memory : MemoryUse
  time : Instant

/-- Network counters: sections of named numbers. -/
abbrev NetworkCounters := Dict (Dict Int64)

/-- One hierarchy of control groups that a process is in. -/
structure CgroupEntry where
  hierarchy : UInt32
  controllers : List String
  path : String
  deriving DecidableEq

/-- The control groups of a process. -/
structure CgroupInfo where
  entries : List CgroupEntry
  deriving DecidableEq

/-- All that is known about a process in one cycle. -/
structure ProcState where
  status : Status
  identity : Identity
  cpu : CpuUse
  memory : MemoryUse
  network : Option NetworkCounters
  cgroup : Option CgroupInfo
  sampleTime : Instant
  /-- False when the identity could not be read and stands blank. -/
  identityComplete : Bool

namespace ProcState

def pid (s : ProcState) : Pid := s.status.pid

/-- The counters from which the state was made. -/
def toSample (s : ProcState) : Sample := ⟨s.cpu, s.memory, s.sampleTime⟩

/-- Whether `status` shows the process of this state: the same pid and name, and
the same start where both are known. -/
def sameProcess (s : ProcState) (status : Status) : Bool :=
  s.status.pid == status.pid && s.status.name == status.name &&
    match s.status.startTicks, status.startTicks with
    | some a, some b => a == b
    | _, _ => true

theorem sameProcess_iff (s : ProcState) (status : Status) :
    s.sameProcess status = true ↔ s.status.pid = status.pid ∧ s.status.name = status.name ∧
      ∀ a b, s.status.startTicks = some a → status.startTicks = some b → a = b := by
  unfold sameProcess
  split
  · simp_all [and_assoc]
  · rename_i unknown
    simp only [Bool.and_true, Bool.and_eq_true, beq_iff_eq]
    refine ⟨fun same => ⟨same.1, same.2, fun a b here there => ?_⟩, fun same => ⟨same.1, same.2.1⟩⟩
    exact absurd there (unknown a b here)

/-- Leaves out the tick counts and keeps the shares. -/
def stripTicks (s : ProcState) : ProcState :=
  { s with
    cpu :=
      { s.cpu with
        user := { s.cpu.user with ticks := none }
        system := { s.cpu.system with ticks := none }
        total := { s.cpu.total with ticks := none } } }

/-- The states differ in their tick counts at most. -/
structure SameButTicks (s t : ProcState) : Prop where
  status : s.status = t.status
  identity : s.identity = t.identity
  pct : ∀ kind, (s.cpu.share kind).pct = (t.cpu.share kind).pct
  normPct : ∀ kind, (s.cpu.share kind).normPct = (t.cpu.share kind).normPct
  startTime : s.cpu.startTime = t.cpu.startTime
  memory : s.memory = t.memory
  network : s.network = t.network
  cgroup : s.cgroup = t.cgroup
  sampleTime : s.sampleTime = t.sampleTime
  identityComplete : s.identityComplete = t.identityComplete

namespace SameButTicks

variable {s t u : ProcState}

theorem refl (s : ProcState) : SameButTicks s s := by
  constructor <;> intros <;> rfl

theorem symm (same : SameButTicks s t) : SameButTicks t s := by
  constructor <;> intros <;> simp only [same.status, same.identity, same.pct, same.normPct,
    same.startTime, same.memory, same.network, same.cgroup, same.sampleTime, same.identityComplete]

theorem trans (same : SameButTicks s t) (same' : SameButTicks t u) : SameButTicks s u := by
  constructor <;> intros <;> simp only [same.status, same.identity, same.pct, same.normPct,
    same.startTime, same.memory, same.network, same.cgroup, same.sampleTime, same.identityComplete,
    same'.status, same'.identity, same'.pct, same'.normPct, same'.startTime, same'.memory,
    same'.network, same'.cgroup, same'.sampleTime, same'.identityComplete]

/-- States with the same tick counts that differ in nothing else are the same. -/
theorem eq (same : SameButTicks s t)
    (ticks : ∀ kind, (s.cpu.share kind).ticks = (t.cpu.share kind).ticks) : s = t := by
  have shares (kind : CpuKind) : s.cpu.share kind = t.cpu.share kind := by
    cases here : s.cpu.share kind
    cases there : t.cpu.share kind
    have pct := same.pct kind
    have normPct := same.normPct kind
    have count := ticks kind
    rw [here, there] at pct normPct count
    rw [CpuShare.mk.injEq]
    exact ⟨count, pct, normPct⟩
  obtain ⟨status, identity, ⟨user, system, total, startTime⟩, _⟩ := s
  obtain ⟨status', identity', ⟨user', system', total', startTime'⟩, _⟩ := t
  obtain rfl : user = user' := shares .user
  obtain rfl : system = system' := shares .system
  obtain rfl : total = total' := shares .total
  obtain ⟨rfl, rfl, _, _, rfl, rfl, rfl, rfl, rfl, rfl⟩ := same
  rfl

end SameButTicks

theorem stripTicks_sameButTicks (s : ProcState) : SameButTicks s.stripTicks s := by
  constructor
  case pct => exact fun kind => by cases kind <;> rfl
  case normPct => exact fun kind => by cases kind <;> rfl
  all_goals rfl

theorem stripTicks_ticks (s : ProcState) (kind : CpuKind) :
    (s.stripTicks.cpu.share kind).ticks = none := by
  cases kind <;> rfl

/-- Stripping clears the three tick counts and nothing else. -/
theorem eq_stripTicks_iff (s t : ProcState) :
    t = s.stripTicks ↔ SameButTicks t s ∧ ∀ kind, (t.cpu.share kind).ticks = none := by
  constructor
  · rintro rfl
    exact ⟨s.stripTicks_sameButTicks, s.stripTicks_ticks⟩
  · rintro ⟨same, cleared⟩
    refine (same.trans s.stripTicks_sameButTicks.symm).eq fun kind => ?_
    rw [cleared, stripTicks_ticks]

end ProcState

end ProcMeter
