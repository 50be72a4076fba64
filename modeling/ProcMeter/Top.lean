import ProcMeter.Process.State

/-! Choosing the processes that use most: the union of those that lead by CPU
and of those that lead by resident memory. Each ranking is in descending order
with absent values last, and equal values keep the order in which the processes
came. The choice keeps that order too.

A sort is only known to sort by a total order. By another, and shares of the CPU
that are no numbers make one, it may give any order or give up. So the choice is
written for any sort, and for the one by insertion, which never gives up. -/
namespace ProcMeter

/-- Which processes of a cycle are reported. -/
structure TopRule where
  enabled : Bool
  byCpu : UInt64
  byMemory : UInt64
  deriving DecidableEq

/-- A number that orders binary64 numbers as their values do, zeros of both
signs alike; it says nothing about NaN. -/
def orderKey (x : Float) : Int :=
  let bits := x.toBits.toNat
  if bits < 0x8000000000000000 then bits else -((bits : Int) - 0x8000000000000000)

/-- Whether `a` ranks strictly before `b`: a present value before an absent one,
and a greater one before a smaller one. -/
def ranksBefore {α : Type} (greater : α → α → Bool) : Option α → Option α → Bool
  | some a, some b => greater a b
  | some _, none => true
  | none, _ => false

/-- NaN is neither greater nor smaller than any number. -/
def cpuGreater (a b : Float) : Bool := !a.isNaN && !b.isNaN && orderKey b < orderKey a

def bytesGreater (a b : UInt64) : Bool := b < a

/-- `p` ranks before `q` by CPU. -/
def leadsByCpu (p q : ProcState) : Bool :=
  ranksBefore cpuGreater p.cpu.total.pct q.cpu.total.pct

/-- `p` ranks before `q` by resident memory. -/
def leadsByMemory (p q : ProcState) : Bool :=
  ranksBefore bytesGreater p.memory.rss.bytes q.memory.rss.bytes

/-- Puts `x` into a ranking that is kept in reverse: after all that it does not
rank before, from the end on. -/
def insertRanked {α : Type} (before : α → α → Bool) (x : α) : List α → List α
  | [] => [x]
  | y :: ys => if before x y then y :: insertRanked before x ys else x :: y :: ys

/-- The elements in the order of their ranks; those of one rank keep their order. -/
def ranking {α : Type} (before : α → α → Bool) (xs : List α) : List α :=
  (xs.foldl (fun done x => insertRanked before x done) []).reverse

/-- A way to sort elements by what ranks before what; it may give up. -/
abbrev Sorter (α : Type) := (α → α → Bool) → List α → Option (List α)

def byInsertion {α : Type} : Sorter α := fun before xs => some (ranking before xs)

namespace TopRule

/-- Reports every process. -/
def off : TopRule := ⟨false, 0, 0⟩

/-- Whether the rule can leave out a process. -/
def isActive (r : TopRule) : Bool := r.enabled && (r.byCpu != 0 || r.byMemory != 0)

/-- The pids of the first `n` processes of a ranking. -/
def leaders (before : ProcState → ProcState → Bool) (n : UInt64) (procs : List ProcState) :
    List Pid :=
  ((ranking before procs).take n.toNat).map ProcState.pid

/-- The pids that either ranking chooses. -/
def chosen (r : TopRule) (procs : List ProcState) : List Pid :=
  leaders leadsByCpu r.byCpu procs ++ leaders leadsByMemory r.byMemory procs

/-- The first process of each wanted pid, in the order of the list. -/
def firstOfEach (wanted : List Pid) : List ProcState → List ProcState
  | [] => []
  | p :: ps =>
    if wanted.contains p.pid then p :: firstOfEach (wanted.filter (· != p.pid)) ps
    else firstOfEach wanted ps

/-- The processes of a cycle that are reported. -/
def select (r : TopRule) (procs : List ProcState) : List ProcState :=
  if r.isActive then firstOfEach (r.chosen procs) procs else procs

/-- The pids of the first `n` processes as a sort has them. For none it is not asked. -/
def leadersBy (sort : Sorter ProcState) (before : ProcState → ProcState → Bool) (n : UInt64)
    (procs : List ProcState) : Option (List Pid) :=
  if n = 0 then some []
  else (sort before procs).map fun sorted => (sorted.take n.toNat).map ProcState.pid

/-- The processes of a cycle that are reported, by any sort. -/
def selectBy (sort : Sorter ProcState) (r : TopRule) (procs : List ProcState) :
    Option (List ProcState) :=
  if r.isActive then do
    let byCpu ← leadersBy sort leadsByCpu r.byCpu procs
    let byMemory ← leadersBy sort leadsByMemory r.byMemory procs
    return firstOfEach (byCpu ++ byMemory) procs
  else some procs

end TopRule

end ProcMeter
