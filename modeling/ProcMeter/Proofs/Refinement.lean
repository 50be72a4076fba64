import ProcMeter.Proofs.Order

/-! A cycle does what sampling the processes one by one would do, in the order of its schedule. Here
the world stands still: every answer depends on nothing but the process that is asked about. -/
namespace ProcMeter.Engine

section
variable {m : Type → Type} [Monad m]

end

variable {e : Engine Id} {registry : Registry} {host : Host} {pid : Pid} {r : Record}
  {pids schedule : List Pid}

/-- A cycle has to do with a process if its name matches, or cannot be read. -/
def due (e : Engine Id) (pid : Pid) : Bool :=
  match e.source.status pid with
  | .error _ => true
  | .ok status => e.rules.procs.accepts status.name

theorem visit_of_not_due (undue : e.due pid = false) :
    e.visit registry host pid = Outcome.filtered := by
  unfold Engine.due at undue
  simp only [visit, bind_still]
  split at undue
  · contradiction
  · rename_i status read
    simp only [read, undue, Bool.false_eq_true, if_false]
    rfl

theorem visit_of_due (due : e.due pid = true) :
    e.visit registry host pid = Outcome.ofResult (e.probe registry host pid) := by
  unfold Engine.due at due
  simp only [visit_step, probe, bind_still]
  split at due
  · rename_i err read
    simp only [read]
    rfl
  · rename_i status read
    simp only [read, due, if_true]
    rfl

end ProcMeter.Engine
