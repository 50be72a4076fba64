import Mathlib.Data.List.Basic
import ProcMeter.Proofs.Run

/-! In which order a cycle comes to its processes. They are visited by schedule, and the states are
put back into the order of the enumeration; visiting them as they are enumerated is one schedule. In
all of this the world stands still: every answer depends on nothing but the process that is asked
about. -/
namespace ProcMeter.Engine

/-- The engine in a world that stands still. -/
def still {σ : Type} (e : Engine (StateM σ)) (w : σ) : Engine Id where
  rules := e.rules
  source :=
    { pids := (e.source.pids w).1
      status := fun pid => (e.source.status pid w).1
      sample := fun pid => (e.source.sample pid w).1
      identity := fun pid => (e.source.identity pid w).1
      host := (e.source.host w).1 }
  network := e.network.map fun source pid => (source pid w).1
  cgroups := e.cgroups.map fun source pid => (source pid w).1
  stopwatch := (e.stopwatch w).1

/-- Every status shows the process that was asked for. -/
def ShowsAsked (e : Engine Id) : Prop :=
  ∀ pid status, e.source.status pid = .ok status → status.pid = pid

section
variable {m : Type → Type} [Monad m]

/-- Visits processes one after another and keeps what came of each. -/
def visitEach (e : Engine m) (host : Host) :
    List Pid → Record → m (List (Pid × Outcome) × Record)
  | [], r => return ([], r)
  | pid :: pids, r => do
    let outcome ← e.visit r.registry host pid
    let (outcomes, r) ← visitEach e host pids (note r pid outcome)
    return ((pid, outcome) :: outcomes, r)

/-- The states among outcomes, in the order of `pids`. -/
def statesOf (pids : List Pid) (outcomes : List (Pid × Outcome)) : List ProcState :=
  pids.filterMap fun pid => (outcomes.lookup pid).bind Outcome.state?

/-- A cycle that visits its processes in the order of `schedule`. -/
def cycleIn (e : Engine m) (schedule : List Pid) (r : Record) :
    m (Except CycleError (List ProcState) × Record) := do
  let start ← e.stopwatch
  match ← e.source.pids with
  | .error err => return (.error err, { r with counters := r.counters.recordFailure })
  | .ok pids =>
    let host ← e.source.host
    let (outcomes, r) ← e.visitEach host schedule r
    let selected := (e.rules.top.select (statesOf pids outcomes)).map (shown e.rules)
    let r := pruneRecord r pids
    let stop ← e.stopwatch
    let counters := r.counters.recordCycle (UInt64.ofNat selected.length) (stop - start)
    return (.ok selected, { r with counters := counters })

end

variable {e : Engine Id} {host : Host} {pid : Pid} {pids schedule : List Pid} {r : Record}

theorem bind_still {α β : Type} (x : Id α) (f : α → Id β) : (x >>= f) = f x := rfl

theorem sweep_cons (e : Engine Id) (host : Host) (pid : Pid) (pids : List Pid) (r : Record) :
    let outcome := e.visit r.registry host pid
    let rest := e.sweep host pids (note r pid outcome)
    e.sweep host (pid :: pids) r = (outcome.state?.toList ++ rest.1, rest.2) :=
  e.sweep_step host pid pids r

theorem visitEach_cons (e : Engine Id) (host : Host) (pid : Pid) (pids : List Pid) (r : Record) :
    let outcome := e.visit r.registry host pid
    let rest := e.visitEach host pids (note r pid outcome)
    e.visitEach host (pid :: pids) r = ((pid, outcome) :: rest.1, rest.2) := rfl

theorem statesOf_cons (fresh : pid ∉ pids) (outcome : Outcome) (outcomes : List (Pid × Outcome)) :
    statesOf (pid :: pids) ((pid, outcome) :: outcomes) =
      outcome.state?.toList ++ statesOf pids outcomes := by
  have later : pids.filterMap (fun q => (((pid, outcome) :: outcomes).lookup q).bind
      Outcome.state?) = statesOf pids outcomes := by
    refine List.filterMap_congr fun q member => ?_
    have other : (q == pid) = false := beq_false_of_ne fun same => fresh (same ▸ member)
    rw [List.lookup_cons, other]
  simp only [statesOf, List.filterMap_cons, later, List.lookup_cons_self, Option.bind_some]
  cases outcome.state? with
  | none => rfl
  | some s => rfl

/-- A sweep visits the processes as they are enumerated. -/
theorem sweep_eq_visitEach (distinct : pids.Nodup) (r : Record) :
    e.sweep host pids r =
      (statesOf pids (e.visitEach host pids r).1, (e.visitEach host pids r).2) := by
  induction pids generalizing r with
  | nil => rfl
  | cons pid rest ih =>
    obtain ⟨fresh, distinct⟩ := List.nodup_cons.mp distinct
    rw [sweep_cons, visitEach_cons, ih distinct, statesOf_cons fresh]

/-- A cycle visits its processes as they are enumerated. -/
theorem cycleIn_enumeration (listed : e.source.pids = .ok pids) (distinct : pids.Nodup)
    (r : Record) : e.cycleIn pids r = e.cycle r := by
  simp only [cycleIn, cycle, bind_still, listed, sweep_eq_visitEach distinct]

end ProcMeter.Engine
