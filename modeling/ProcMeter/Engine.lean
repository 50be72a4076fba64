import ProcMeter.Counters
import ProcMeter.Network
import ProcMeter.Registry
import ProcMeter.Source
import ProcMeter.Top

/-! Sampling. An engine asks its sources about processes and keeps, in its
record, the latest state of each and the counts of its work. A cycle goes over
all processes whose names match; one process may also be sampled by its id, and
states may be listed without sampling. What is reported may leave processes or
ticks out, but the record never does, so that the next cycle has a full baseline. -/
namespace ProcMeter

/-- What to sample and what to report of it. -/
structure Rules where
  procs : Matcher
  envWhitelist : Matcher
  /-- Which network counters to keep; all when there is no list. -/
  networkMetrics : Option Matcher
  /-- An identity is read once for each process. -/
  cacheIdentity : Bool
  /-- Tick counts are reported. -/
  reportTicks : Bool
  top : TopRule

/-- Rules, and the sources to which they apply. -/
structure Engine (m : Type → Type) where
  rules : Rules
  source : Source m
  network : Option (NetworkSource m)
  cgroups : Option (CgroupSource m)
  /-- A clock in milliseconds that never goes back. -/
  stopwatch : m Float

/-- What an engine keeps from call to call. -/
structure Record where
  registry : Registry
  counters : Counters

def Record.empty : Record := ⟨.empty, .zero⟩

/-- A process without sampling it. -/
structure ListEntry where
  pid : Pid
  state : RunState
  deriving DecidableEq

namespace Engine

variable {m : Type → Type} [Monad m]

/-- The identity that needs not be read again: that of an earlier state of the
same process, if it was read in full. -/
def cachedIdentity? (rules : Rules) (registry : Registry) (status : Status) : Option Identity :=
  if rules.cacheIdentity then
    match registry.get? status.pid with
    | some prev => if prev.sameProcess status && prev.identityComplete then some prev.identity else none
    | none => none
  else none

/-- Reads an identity, with the environment restricted. It stands blank, and
incomplete, when it cannot be read of a process that is still there. -/
def readIdentity (e : Engine m) (pid : Pid) : m (Except SampleError (Identity × Bool)) := do
  match ← e.source.identity pid with
  | .ok identity => return .ok (identity.restrictEnv e.rules.envWhitelist, true)
  | .error err =>
    if err.isGone then return .error err
    else return .ok (Identity.blank.restrictEnv e.rules.envWhitelist, false)

/-- The identity of a process, and whether it is complete. -/
def identityFor (e : Engine m) (registry : Registry) (status : Status) :
    m (Except SampleError (Identity × Bool)) :=
  match cachedIdentity? e.rules registry status with
  | some identity => return .ok (identity, true)
  | none => e.readIdentity status.pid

/-- The network counters to report; none when they cannot be read. -/
def networkFor (e : Engine m) (pid : Pid) : m (Option NetworkCounters) :=
  match e.network with
  | none => return none
  | some source => do
    match ← source pid with
    | .error _ => return none
    | .ok counters =>
      match e.rules.networkMetrics with
      | some whitelist => return some (Network.restrict counters whitelist)
      | none => return some counters

/-- The control groups to report; none when they cannot be read. -/
def cgroupFor (e : Engine m) (pid : Pid) : m (Option CgroupInfo) :=
  match e.cgroups with
  | none => return none
  | some source => do
    match ← source pid with
    | .error _ => return none
    | .ok info => return info

/-- Reads all about a process, and adds its shares since the state in the registry. -/
def fill (e : Engine m) (registry : Registry) (host : Host) (status : Status) :
    m (Except SampleError ProcState) := do
  match ← e.source.sample status.pid with
  | .error err => return .error err
  | .ok sample =>
    match ← e.identityFor registry status with
    | .error err => return .error err
    | .ok (identity, complete) =>
      let network ← e.networkFor status.pid
      let cgroup ← e.cgroupFor status.pid
      let state : ProcState :=
        ⟨status, identity, sample.cpu, sample.memory, network, cgroup, sample.time, complete⟩
      return .ok (state.ratedAgainst (registry.get? status.pid) host)

/-- What came of one process in a cycle. -/
inductive Outcome where
  | sampled (s : ProcState)
  /-- The name matched no pattern. -/
  | filtered
  | failed (err : SampleError)

/-- Samples a process if its name matches. -/
def visit (e : Engine m) (registry : Registry) (host : Host) (pid : Pid) : m Outcome := do
  match ← e.source.status pid with
  | .error err => return .failed err
  | .ok status =>
    if e.rules.procs.accepts status.name then
      match ← e.fill registry host status with
      | .error err => return .failed err
      | .ok state => return .sampled state
    else return .filtered

/-- What an outcome leaves in the record. A process that has gone is forgotten;
any other failure leaves what was known. -/
def note (r : Record) (pid : Pid) : Outcome → Record
  | .sampled s => { r with registry := r.registry.set s.pid s }
  | .filtered => { r with counters := r.counters.recordFiltered }
  | .failed err =>
    let counters := r.counters.recordSkipped
    ⟨if err.isGone then r.registry.remove pid else r.registry,
      if err.isDenied then counters.recordDenied else counters⟩

/-- Visits the processes one after another; the states are in that order. -/
def sweep (e : Engine m) (host : Host) : List Pid → Record → m (List ProcState × Record)
  | [], r => return ([], r)
  | pid :: pids, r => do
    let outcome ← e.visit r.registry host pid
    let (states, r) ← sweep e host pids (note r pid outcome)
    match outcome with
    | .sampled s => return (s :: states, r)
    | _ => return (states, r)

/-- Leaves out what the rules do not report of a state. -/
def shown (rules : Rules) (s : ProcState) : ProcState :=
  if rules.reportTicks then s else s.stripTicks

/-- Forgets the processes that are no longer there, and counts them. -/
def pruneRecord (r : Record) (alive : List Pid) : Record :=
  let kept := r.registry.prune alive
  let pruned := r.registry.size - kept.size
  ⟨kept, if 0 < pruned then r.counters.recordPruned (UInt64.ofNat pruned) else r.counters⟩

/-- One cycle: the states to report, or why the processes could not be enumerated. -/
def cycle (e : Engine m) (r : Record) : m (Except CycleError (List ProcState) × Record) := do
  let start ← e.stopwatch
  match ← e.source.pids with
  | .error err => return (.error err, { r with counters := r.counters.recordFailure })
  | .ok pids =>
    let host ← e.source.host
    let (states, r) ← e.sweep host pids r
    let selected := (e.rules.top.select states).map (shown e.rules)
    let r := pruneRecord r pids
    let stop ← e.stopwatch
    let counters := r.counters.recordCycle (UInt64.ofNat selected.length) (stop - start)
    return (.ok selected, { r with counters := counters })

/-- Samples a process, whatever its name. -/
def probe (e : Engine m) (registry : Registry) (host : Host) (pid : Pid) :
    m (Except SampleError ProcState) := do
  match ← e.source.status pid with
  | .error err => return .error err
  | .ok status => e.fill registry host status

/-- Samples one process and keeps its state. -/
def sampleOne (e : Engine m) (r : Record) (pid : Pid) :
    m (Except SampleError ProcState × Record) := do
  let host ← e.source.host
  match ← e.probe r.registry host pid with
  | .ok s => return (.ok (shown e.rules s), { r with registry := r.registry.set s.pid s })
  | .error err =>
    return (.error err, if err.isGone then { r with registry := r.registry.remove pid } else r)

/-- The processes with readable statuses and matching names. An empty list of
patterns matches every name here. -/
def listed (e : Engine m) : List Pid → m (List ListEntry)
  | [] => return []
  | pid :: pids => do
    let status ← e.source.status pid
    let entries ← listed e pids
    match status with
    | .error _ => return entries
    | .ok status =>
      if e.rules.procs.acceptsOrEmpty status.name then return ⟨pid, status.state⟩ :: entries
      else return entries

/-- Lists matching processes. Nothing is sampled or kept. -/
def listStates (e : Engine m) : m (Except CycleError (List ListEntry)) := do
  match ← e.source.pids with
  | .error err => return .error err
  | .ok pids => return .ok (← e.listed pids)

end Engine

end ProcMeter
