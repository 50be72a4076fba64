import ProcMeter.Engine

/-! A process table in memory, with a clock of its own, that serves as a source.
Changes can be made between questions, or be planned ahead for the moments at
which the processes are enumerated or one of them is asked for. Questions can be
made to fail, for a number of times or until further notice; a planned failure
comes before the look into the table, which knows nothing of a process that is
not in it. A process keeps the id under which it was put in, even where its
description is changed to show another. The table counts how often it was asked
for an identity. -/
namespace ProcMeter

/-- All that the table holds of one process. -/
structure TableProcess where
  status : Status
  cpu : CpuUse
  memory : MemoryUse
  identity : Identity
  network : NetworkCounters
  cgroup : Option CgroupInfo

/-- What can be asked about a process. -/
inductive Question where
  | status
  | sample
  | identity
  | network
  | cgroup
  deriving DecidableEq

/-- How a question fails. -/
inductive FaultKind where
  | gone
  | denied
  | malformed
  | io
  | unsupported
  deriving DecidableEq

/-- The error that a failing question about `pid` is answered with. -/
def FaultKind.error (pid : Pid) : FaultKind → SampleError
  | .gone => .notFound pid
  | .denied => .permissionDenied pid
  | .malformed => .malformed pid .stat
  | .io => .io pid (.other "read interrupted")
  | .unsupported => .unsupported

/-- A planned failure. -/
structure TableFault where
  pid : Pid
  question : Question
  kind : FaultKind
  /-- How often it still happens; without end if there is no number. -/
  times : Option Nat

/-- One failure fewer; a fault that has used up its failures is gone. -/
def TableFault.used (f : TableFault) : List TableFault :=
  match f.times with
  | none => [f]
  | some n => if n ≤ 1 then [] else [{ f with times := some (n - 1) }]

/-- A change to a table. -/
inductive TableChange where
  | put (p : TableProcess)
  | edit (pid : Pid) (f : TableProcess → TableProcess)
  | delete (pid : Pid)
  | order (pids : Option (List Pid))
  | advance (nanos : Int)
  | clock (t : Instant)
  | host (h : Host)
  | enumeration (err : Option CycleError)
  | fault (pid : Pid) (question : Question) (kind : Option FaultKind) (times : Option Nat)

/-- When planned changes are made. -/
inductive Moment where
  | enumeration
  | status
  deriving DecidableEq

structure Table where
  /-- Each under the id that it is asked for by. -/
  processes : List (Pid × TableProcess)
  /-- What enumeration answers; all ids in ascending order if there is no list. -/
  order : Option (List Pid)
  clock : Instant
  host : Host
  enumerationError : Option CycleError
  faults : List TableFault
  identityCalls : Nat
  moment : Moment
  /-- The changes for the coming moments. -/
  planned : List (List TableChange)

namespace Table

/-- An empty table at an instant. -/
def start (clock : Instant) (host : Host) : Table :=
  ⟨[], none, clock, host, none, [], 0, .enumeration, []⟩

def find? (t : Table) (pid : Pid) : Option TableProcess := t.processes.lookup pid

def without (t : Table) (pid : Pid) : List (Pid × TableProcess) :=
  t.processes.filter fun p => p.1 != pid

def change (t : Table) : TableChange → Table
  | .put p => { t with processes := t.without p.status.pid ++ [(p.status.pid, p)] }
  | .edit pid f =>
    { t with processes := t.processes.map fun p => if p.1 == pid then (pid, f p.2) else p }
  | .delete pid => { t with processes := t.without pid }
  | .order pids => { t with order := pids }
  | .advance nanos => { t with clock := t.clock.addNanos nanos }
  | .clock c => { t with clock := c }
  | .host h => { t with host := h }
  | .enumeration err => { t with enumerationError := err }
  | .fault pid question kind times =>
    let others := t.faults.filter fun f => !(f.pid == pid && f.question == question)
    match kind with
    | none => { t with faults := others }
    | some kind => { t with faults := ⟨pid, question, kind, times⟩ :: others }

def changes (t : Table) (cs : List TableChange) : Table := cs.foldl change t

/-- Makes the next planned changes when their moment has come. -/
def reach (t : Table) (moment : Moment) : Table :=
  if t.moment = moment then
    match t.planned with
    | [] => t
    | cs :: later => { t with planned := later }.changes cs
  else t

/-- The failure that meets a question, and the table after it. -/
def meet (t : Table) (pid : Pid) (question : Question) : Option FaultKind × Table :=
  let mine (f : TableFault) := f.pid == pid && f.question == question
  match t.faults.find? mine with
  | none => (none, t)
  | some f =>
    let rest := t.faults.filter fun g => !mine g
    if f.times = some 0 then (none, { t with faults := rest })
    else (some f.kind, { t with faults := f.used ++ rest })

/-- Answers a question about a process in the table. -/
def ask {α : Type} (pid : Pid) (question : Question) (answer : Table → TableProcess → α) :
    StateM Table (Except SampleError α) := do
  let (failure, t) := (← get).meet pid question
  set t
  match failure with
  | some kind => return .error (kind.error pid)
  | none =>
    match t.find? pid with
    | some p => return .ok (answer t p)
    | none => return .error (.notFound pid)

/-- The ids that enumeration gives. -/
def enumerated (t : Table) : List Pid :=
  t.order.getD (t.processes.map Prod.fst).mergeSort

/-- The table as a source of processes. -/
def source : Source (StateM Table) where
  pids := do
    modify fun t => t.reach .enumeration
    let t ← get
    match t.enumerationError with
    | some err => return .error err
    | none => return .ok t.enumerated
  status pid := do
    modify fun t => t.reach .status
    ask pid .status fun _ p => p.status
  sample pid := ask pid .sample fun t p => ⟨p.cpu, p.memory, t.clock⟩
  identity pid := do
    modify fun t => { t with identityCalls := t.identityCalls + 1 }
    ask pid .identity fun _ p => p.identity
  host := return (← get).host

def networkSource : NetworkSource (StateM Table) := fun pid => ask pid .network fun _ p => p.network

def cgroupSource : CgroupSource (StateM Table) := fun pid => ask pid .cgroup fun _ p => p.cgroup

end Table

end ProcMeter
