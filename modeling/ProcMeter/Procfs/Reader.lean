import ProcMeter.Cgroup
import ProcMeter.Files.Basic
import ProcMeter.Network
import ProcMeter.Procfs.Facts
import ProcMeter.Procfs.Identity
import ProcMeter.Procfs.Stat
import ProcMeter.Procfs.Statm
import ProcMeter.Resolver
import ProcMeter.Source

/-! Reading processes from `/proc`. Each process has a directory named by its id,
with its stat and statm lines, its status file, its command line, its
environment, a link to its working directory, its network counters and its
control groups. The boot time is read once, and without it start times are
unknown. -/
namespace ProcMeter.Procfs

/-- What the host fixes once and for all. -/
structure Units where
  /-- Clock ticks a second. -/
  ticksPerSecond : UInt64
  /-- Bytes in a page. -/
  pageSize : UInt64
  deriving DecidableEq

def Units.usual : Units := ⟨100, 4096⟩

/-- What the reader asks for besides files. -/
structure Surroundings (m : Type → Type) where
  /-- The name of a user. -/
  userName : UInt32 → m (Option String)
  now : m Instant
  cpus : m UInt64

structure Reader (m : Type → Type) where
  files : Files m
  surroundings : Surroundings m
  resolver : Resolver
  units : Units
  /-- Seconds since the epoch. -/
  bootTime : Option UInt64

variable {m : Type → Type} [Monad m]

/-- A fact from a file of the host. -/
def readFact {α : Type} (files : Files m) (resolver : Resolver) (path : String)
    (parse : List Char → Except FactError α) : m (Except FactError α) := do
  let path := resolver.resolve path
  match ← files.readText path with
  | .error e => return .error (.unreadable path e.message)
  | .ok content => return parse content

def readTotalMemory (files : Files m) (resolver : Resolver) : m (Except FactError UInt64) :=
  readFact files resolver "/proc/meminfo" parseTotalMemory

def readBootTime (files : Files m) (resolver : Resolver) : m (Except FactError UInt64) :=
  readFact files resolver "/proc/stat" parseBootTime

namespace Reader

/-- A reader with the boot time of this moment. -/
def start (files : Files m) (surroundings : Surroundings m) (units : Units)
    (resolver : Resolver) : m (Reader m) := do
  return ⟨files, surroundings, resolver, units, (← readBootTime files resolver).toOption⟩

/-- The path of a file of a process. -/
def path (r : Reader m) (pid : Pid) (file : String) : String :=
  Resolver.within (r.resolver.procDir pid) file

/-- The text of a file of a process. -/
def text (r : Reader m) (pid : Pid) (file : String) : m (Except SampleError (List Char)) := do
  return (← r.files.readText (r.path pid file)).mapError (SampleError.ofIo pid)

def readStat (r : Reader m) (pid : Pid) : m (Except SampleError StatLine) := do
  match ← r.text pid "stat" with
  | .error e => return .error e
  | .ok content =>
    match StatLine.parse? content with
    | some line => return .ok line
    | none => return .error (.malformed pid .stat)

def readStatm (r : Reader m) (pid : Pid) : m (Except SampleError StatmLine) := do
  match ← r.text pid "statm" with
  | .error e => return .error e
  | .ok content =>
    match StatmLine.parse? content r.units.pageSize with
    | some line => return .ok line
    | none => return .error (.malformed pid .statm)

/-- The id that a directory name spells: ASCII digits within the range of ids. -/
def pidOfName? (name : String) : Option Pid :=
  if name.toList.all Char.isDigit then Text.int32? name.toList else none

def pids (r : Reader m) : m (Except CycleError (List Pid)) := do
  let root := r.resolver.resolve "/proc"
  match ← r.files.list root with
  | .error e => return .error (.enumeration root e)
  | .ok names => return .ok (names.filterMap pidOfName?)

/-- The status that a stat line gives. -/
def statusOf (pid : Pid) (line : StatLine) : Status :=
  ⟨pid, some line.ppid, some line.pgrp, line.name, RunState.ofLetter line.state,
    some line.starttime⟩

def status (r : Reader m) (pid : Pid) : m (Except SampleError Status) := do
  return (← r.readStat pid).map (statusOf pid)

/-- The scheduler's state of one process. -/
def runState (r : Reader m) (pid : Pid) : m (Except SampleError RunState) := do
  return (← r.readStat pid).map fun line => RunState.ofLetter line.state

/-- When a process started, from its start ticks. -/
def startTime? (bootTime : Option UInt64) (units : Units) (startTicks : UInt64) :
    Option Instant := do
  let boot ← bootTime
  let millis := (millisOfTicks startTicks units.ticksPerSecond).toNat
  Instant.ofTimestamp? (boot.toInt64.toInt + (millis / 1000 : Nat)) (millis % 1000 * 1_000_000)

/-- The CPU use that a stat line gives. -/
def cpuOf (bootTime : Option UInt64) (units : Units) (line : StatLine) : CpuUse :=
  let user := millisOfTicks line.utime units.ticksPerSecond
  let system := millisOfTicks line.stime units.ticksPerSecond
  ⟨.ofTicks user, .ofTicks system, .ofTicks (user + system),
    startTime? bootTime units line.starttime⟩

/-- The memory use that a statm line gives. -/
def memoryOf (line : StatmLine) : MemoryUse :=
  ⟨some line.size, ⟨some line.resident, none⟩, some line.shared⟩

def sample (r : Reader m) (pid : Pid) : m (Except SampleError Sample) := do
  let time ← r.surroundings.now
  match ← r.readStat pid with
  | .error e => return .error e
  | .ok stat =>
    match ← r.readStatm pid with
    | .error e => return .error e
    | .ok statm => return .ok ⟨cpuOf r.bootTime r.units stat, memoryOf statm, time⟩

/-- The user of a process, by name where the user has one. -/
def username (r : Reader m) (pid : Pid) : m (Option String) := do
  match (← r.files.readText (r.path pid "status")).toOption.bind parseUid? with
  | none => return none
  | some uid => return some ((← r.surroundings.userName uid).getD (toString uid.toNat))

/-- Who a process is. The command line is open to all readers, so when it cannot
be read the process cannot; whatever else cannot be read is left out. -/
def identity (r : Reader m) (pid : Pid) : m (Except SampleError Identity) := do
  match ← r.files.read (r.path pid "cmdline") with
  | .error e => return .error (.ofIo pid e)
  | .ok content =>
    let args := parseArgs content
    let username ← r.username pid
    let cwd ← r.files.readLink (r.path pid "cwd")
    let environ ← r.files.read (r.path pid "environ")
    return .ok
      { username := username
        cwd := cwd.toOption
        args := args
        cmdline := if args.isEmpty then none else some (" ".intercalate args)
        env := environ.toOption.map parseEnviron }

def host (r : Reader m) : m Host := do
  return ⟨(← readTotalMemory r.files r.resolver).toOption, ← r.surroundings.cpus⟩

/-- The counters of both files; an error only when neither can be read. -/
def network (r : Reader m) : NetworkSource m := fun pid => do
  let snmp ← r.files.readText (r.path pid "net/snmp")
  let netstat ← r.files.readText (r.path pid "net/netstat")
  match snmp, netstat with
  | .error _, .error e => return .error (.ofIo pid e)
  | .ok a, .error _ => return .ok (Network.parseInto ∅ a)
  | .error _, .ok b => return .ok (Network.parseInto ∅ b)
  | .ok a, .ok b => return .ok (Network.parseInto (Network.parseInto ∅ a) b)

/-- The control groups of a process, where they are worth reporting. -/
def cgroups (r : Reader m) (ignoreRoot : Bool) : CgroupSource m := fun pid => do
  match ← r.text pid "cgroup" with
  | .error e => return .error e
  | .ok content => return .ok ((CgroupInfo.parse content).reported? ignoreRoot)

/-- The processes below the root. -/
def source (r : Reader m) : Source m :=
  ⟨r.pids, r.status, r.sample, r.identity, r.host⟩

end Reader

end ProcMeter.Procfs
