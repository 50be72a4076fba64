import ProcMeter.Engine
import ProcMeter.Proofs.Ranking

/-! Choosing the processes that use most keeps the order of the list, and depends on nothing but
the ids and the two measures by which processes are ranked. -/
namespace ProcMeter

namespace TopRule

theorem firstOfEach_sublist (wanted : List Pid) (procs : List ProcState) :
    (firstOfEach wanted procs).Sublist procs := by
  induction procs generalizing wanted with
  | nil => exact .slnil
  | cons p rest ih =>
    unfold firstOfEach
    split
    · exact (ih _).cons_cons p
    · exact (ih _).cons p

theorem select_sublist (r : TopRule) (procs : List ProcState) : (r.select procs).Sublist procs := by
  unfold select
  split
  · exact firstOfEach_sublist _ procs
  · exact .refl procs

section
variable {f : ProcState → ProcState}

theorem leaders_map {before : ProcState → ProcState → Bool} (pid : ∀ p, (f p).pid = p.pid)
    (same : ∀ p q, before (f p) (f q) = before p q) (n : UInt64) (procs : List ProcState) :
    leaders before n (procs.map f) = leaders before n procs := by
  simp only [leaders, ranking_map same, ← List.map_take, List.map_map]
  exact List.map_congr_left fun p _ => pid p

theorem firstOfEach_map (pid : ∀ p, (f p).pid = p.pid) (wanted : List Pid)
    (procs : List ProcState) :
    firstOfEach wanted (procs.map f) = (firstOfEach wanted procs).map f := by
  induction procs generalizing wanted with
  | nil => rfl
  | cons p rest ih =>
    simp only [List.map_cons, firstOfEach, pid, ih]
    split <;> rfl

/-- Selection commutes with any change of the states that keeps their ids, their shares of the
CPU and their resident bytes. -/
theorem select_map (r : TopRule) (pid : ∀ p, (f p).pid = p.pid)
    (cpu : ∀ p, (f p).cpu.total.pct = p.cpu.total.pct)
    (rss : ∀ p, (f p).memory.rss.bytes = p.memory.rss.bytes) (procs : List ProcState) :
    r.select (procs.map f) = (r.select procs).map f := by
  have byCpu : ∀ p q, leadsByCpu (f p) (f q) = leadsByCpu p q := by
    intro p q
    simp only [leadsByCpu, cpu]
  have byMemory : ∀ p q, leadsByMemory (f p) (f q) = leadsByMemory p q := by
    intro p q
    simp only [leadsByMemory, rss]
  simp only [select, chosen, leaders_map pid byCpu, leaders_map pid byMemory, firstOfEach_map pid]
  split <;> rfl

end

end TopRule

namespace Engine

theorem shown_status (rules : Rules) (s : ProcState) : (shown rules s).status = s.status := by
  unfold shown
  split <;> rfl

theorem shown_pid (rules : Rules) (s : ProcState) : (shown rules s).pid = s.pid :=
  congrArg Status.pid (shown_status rules s)

end Engine

end ProcMeter
