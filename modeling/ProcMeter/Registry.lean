import ProcMeter.Process.State
import Std.Data.ExtTreeMap

/-! The latest state of every process that is followed. The next state of a
process is rated against it, and its identity need not be read again. -/
namespace ProcMeter

abbrev Registry := Std.ExtTreeMap Pid ProcState compare

namespace Registry

def empty : Registry := ∅

def get? (r : Registry) (pid : Pid) : Option ProcState := r[pid]?

/-- Stores a state in place of any earlier one. -/
def set (r : Registry) (pid : Pid) (s : ProcState) : Registry := r.insert pid s

def remove (r : Registry) (pid : Pid) : Registry := r.erase pid

/-- Keeps the processes that are alive. -/
def prune (r : Registry) (alive : List Pid) : Registry := r.filter fun pid _ => alive.contains pid

/-- The ids in ascending order. -/
def pids (r : Registry) : List Pid := r.keys

theorem get?_empty (pid : Pid) : empty.get? pid = none := by simp [get?, empty]

theorem get?_set (r : Registry) (p q : Pid) (s : ProcState) :
    (r.set p s).get? q = if p = q then some s else r.get? q := by
  simp [get?, set, Std.ExtTreeMap.getElem?_insert]

theorem get?_remove (r : Registry) (p q : Pid) :
    (r.remove p).get? q = if p = q then none else r.get? q := by
  simp [get?, remove, Std.ExtTreeMap.getElem?_erase]

theorem get?_prune (r : Registry) (alive : List Pid) (p : Pid) :
    (r.prune alive).get? p = if p ∈ alive then r.get? p else none := by
  simp [get?, prune, Std.ExtTreeMap.getElem?_filter]
  cases r[p]? <;> simp [Option.filter]

end Registry

end ProcMeter
