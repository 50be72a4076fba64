import ProcMeter.Proofs.Invariant
import ProcMeter.Proofs.Locality

/-! The books of an engine balance. What every call adds to the counters and to the registry can be
told from its reply and its visits; over a run these amounts add up to what the counters and the
registry show. -/
namespace ProcMeter

theorem countP_cons_toNat {α : Type} (p : α → Bool) (x : α) (xs : List α) :
    (x :: xs).countP p = (p x).toNat + xs.countP p := by
  rw [List.countP_cons, Nat.add_comm]
  cases p x <;> rfl

namespace Engine.Outcome

def isSampled (outcome : Outcome) : Bool := outcome.state?.isSome

def isFiltered : Outcome → Bool
  | .filtered => true
  | _ => false

def isFailed : Outcome → Bool
  | .failed _ => true
  | _ => false

def isDenied : Outcome → Bool
  | .failed err => err.isDenied
  | _ => false

theorem one_of_three (outcome : Outcome) :
    outcome.isFiltered.toNat + outcome.isFailed.toNat + outcome.isSampled.toNat = 1 := by
  cases outcome <;> rfl

theorem isFailed_of_isDenied {outcome : Outcome} (denied : outcome.isDenied = true) :
    outcome.isFailed = true := by
  cases outcome with
  | sampled s => contradiction
  | filtered => contradiction
  | failed err => rfl

end Engine.Outcome

theorem Counters.tally_eq (c : Counters) (outcome : Engine.Outcome) :
    c.tally outcome =
      { c with
        pidsFiltered := c.pidsFiltered + .ofNat outcome.isFiltered.toNat
        pidsSkipped := c.pidsSkipped + .ofNat outcome.isFailed.toNat
        permissionDenied := c.permissionDenied + .ofNat outcome.isDenied.toNat } := by
  cases outcome with
  | sampled s => simp [tally, Engine.Outcome.isFiltered, Engine.Outcome.isFailed,
      Engine.Outcome.isDenied]
  | filtered => simp [tally, recordFiltered, Engine.Outcome.isFiltered, Engine.Outcome.isFailed,
      Engine.Outcome.isDenied]
  | failed err =>
    cases denied : err.isDenied <;>
      simp [tally, denied, recordSkipped, recordDenied, Engine.Outcome.isFiltered,
        Engine.Outcome.isFailed, Engine.Outcome.isDenied]

namespace Registry

theorem size_set (registry : Registry) (pid : Pid) (s : ProcState) :
    (registry.set pid s).size = registry.size + (registry.get? pid).isNone.toNat := by
  rw [set, Std.ExtTreeMap.size_insert, ← Std.ExtTreeMap.isSome_getElem?_eq_contains]
  simp only [get?]
  cases registry[pid]? <;> rfl

theorem size_remove (registry : Registry) (pid : Pid) :
    (registry.remove pid).size + (registry.get? pid).isSome.toNat = registry.size := by
  rw [remove, Std.ExtTreeMap.size_erase, ← Std.ExtTreeMap.isSome_getElem?_eq_contains]
  simp only [get?]
  cases found : registry[pid]? with
  | none => rfl
  | some s =>
    have occupied : registry.size ≠ 0 := by
      intro vacant
      rw [Std.ExtTreeMap.eq_empty_iff_size_eq_zero.mpr vacant] at found
      simp at found
    simp only [Option.isSome_some, if_true, Bool.toNat_true]
    omega

theorem size_prune_le (registry : Registry) (alive : List Pid) :
    (registry.prune alive).size ≤ registry.size := Std.ExtTreeMap.size_filter_le_size

end Registry

namespace Visit

variable {σ : Type}

/-- The visit samples a process that had no entry. -/
def creates (v : Visit σ) : Bool :=
  match v.outcome with
  | .sampled s => (v.registry.get? s.pid).isNone
  | _ => false

/-- The visit finds a process gone that had an entry. -/
def drops (v : Visit σ) : Bool :=
  match v.outcome with
  | .failed err => err.isGone && (v.registry.get? v.pid).isSome
  | _ => false

theorem settled_size (v : Visit σ) :
    v.settled.size + v.drops.toNat = v.registry.size + v.creates.toNat := by
  unfold settled drops creates
  cases v.outcome with
  | sampled s => exact Registry.size_set v.registry s.pid s
  | filtered => rfl
  | failed err =>
    cases gone : err.isGone with
    | false =>
      simp only [Registry.settle, gone, Bool.false_eq_true, if_false, Bool.false_and]
    | true =>
      simp only [Registry.settle, gone, if_true, Bool.true_and]
      exact Registry.size_remove v.registry v.pid

end Visit

/-- The states of a cycle, when there has been one. -/
def Reply.cycled? : Reply → Option (List ProcState)
  | .cycle (.ok states) => some states
  | _ => none

/-- A cycle has failed. -/
def Reply.isFailure : Reply → Bool
  | .cycle (.error _) => true
  | _ => false

namespace Engine

variable {σ : Type} {e : Engine (StateM σ)} {r : Record} {t : Turn σ} {registry : Registry}
  {visits before later : List (Visit σ)} {turns : List (Turn σ)}

section
variable (visits)

theorem outcomes_partition :
    visits.countP (·.outcome.isFiltered) + visits.countP (·.outcome.isFailed) +
      visits.countP (·.outcome.isSampled) = visits.length := by
  induction visits with
  | nil => rfl
  | cons v rest ih =>
    have here := v.outcome.one_of_three
    simp only [countP_cons_toNat, List.length_cons]
    omega

theorem length_sampledStates :
    (sampledStates visits).length = visits.countP (·.outcome.isSampled) :=
  List.length_filterMap_eq_countP

theorem noteAll_counters (r : Record) :
    (noteAll r visits).counters =
      { r.counters with
        pidsFiltered := r.counters.pidsFiltered + .ofNat (visits.countP (·.outcome.isFiltered))
        pidsSkipped := r.counters.pidsSkipped + .ofNat (visits.countP (·.outcome.isFailed))
        permissionDenied :=
          r.counters.permissionDenied + .ofNat (visits.countP (·.outcome.isDenied)) } := by
  induction visits generalizing r with
  | nil => simp [noteAll]
  | cons v rest ih =>
    refine (ih (note r v.pid v.outcome)).trans ?_
    simp only [note_eq, Counters.tally_eq, countP_cons_toNat, UInt64.ofNat_add, UInt64.add_assoc]

end

/-- Visits change the size of the registry by the entries that they make and drop. -/
theorem Chained.settleAll_size (chained : e.Chained registry visits) :
    (registry.settleAll visits).size + visits.countP Visit.drops =
      registry.size + visits.countP Visit.creates := by
  induction visits generalizing registry with
  | nil => rfl
  | cons v rest ih =>
    obtain ⟨_, rfl, tail⟩ := chained
    have here := v.settled_size
    have there := ih tail
    simp only [Registry.settleAll_cons, countP_cons_toNat, Visit.settled] at here there ⊢
    omega

theorem Chained.front (chained : e.Chained registry (before ++ later)) :
    e.Chained registry before := by
  cases later with
  | nil => rwa [List.append_nil] at chained
  | cons v rest => exact chained.split.1

/-! ### What a call adds -/

section
variable (e : Engine (StateM σ)) (r : Record) (t : Turn σ)

/-- One for a cycle that comes about. -/
def cycleCount : Nat := (e.reply r t).cycled?.isSome.toNat

/-- One for a cycle that fails. -/
def failureCount : Nat := (e.reply r t).isFailure.toNat

/-- How many states a cycle reports. -/
def reportedCount : Nat := ((e.reply r t).cycled?.getD []).length

/-- How many ids a cycle enumerates. -/
def enumeratedCount (e : Engine (StateM σ)) (_ : Record) (t : Turn σ) : Nat :=
  ((e.enumerated? t).getD []).length

def cycleVisits : List (Visit σ) :=
  match t.call with
  | .cycle => e.visits r t
  | _ => []

/-- How many visits of a cycle come to such an outcome. -/
def outcomeCount (e : Engine (StateM σ)) (select : Outcome → Bool) (r : Record) (t : Turn σ) :
    Nat :=
  (e.cycleVisits r t).countP fun v => select v.outcome

/-- How many entries a call makes. -/
def createdCount : Nat := (e.visits r t).countP Visit.creates

/-- How many entries a call drops because their processes are found gone. -/
def droppedCount : Nat := (e.visits r t).countP Visit.drops

/-- How many entries a cycle prunes. -/
def prunedCount : Nat :=
  match e.enumerated? t with
  | some pids =>
    let settled := r.registry.settleAll (e.visits r t)
    settled.size - (settled.prune pids).size
  | none => 0

end

theorem cycleVisits_of_cycle (called : t.call = .cycle) : e.cycleVisits r t = e.visits r t := by
  simp only [cycleVisits, called]

theorem cycleVisits_of_other (other : t.call ≠ .cycle) : e.cycleVisits r t = [] := by
  unfold cycleVisits
  split
  · contradiction
  · rfl

theorem call_of_other (other : t.call ≠ .cycle) (r : Record) :
    e.enumerated? t = none ∧ (e.reply r t).cycled? = none ∧ (e.reply r t).isFailure = false ∧
      (e.after r t).counters = r.counters := by
  obtain ⟨call, w⟩ := t
  cases call with
  | cycle => contradiction
  | one pid =>
    refine ⟨rfl, rfl, rfl, ?_⟩
    simp only [after, answer, bind_apply, pure_apply, sampleOne_fst]
  | list => exact ⟨rfl, rfl, rfl, rfl⟩

theorem call_of_unlisted (called : t.call = .cycle) (unlisted : e.enumerated? t = none)
    (r : Record) :
    (∃ err, e.reply r t = .cycle (.error err)) ∧ e.visits r t = [] ∧
      (e.after r t).counters = r.counters.recordFailure := by
  obtain ⟨call, w⟩ := t
  obtain rfl := called
  rcases listed : e.enumeration w with ⟨err | pids, w₁⟩
  · refine ⟨⟨err, ?_⟩, ?_, ?_⟩
    · simp only [reply, answer, bind_apply, cycle_of_error listed, pure_apply]
    · simp only [visits, listed]
    · simp only [after, answer, bind_apply, cycle_of_error listed, pure_apply]
  · simp [enumerated?, listed, Except.toOption] at unlisted

theorem call_of_listed {pids : List Pid} (listed : e.enumerated? t = some pids) (r : Record) :
    e.reply r t = .cycle (.ok (reported e.rules (e.visits r t))) ∧
      ∃ millis, (e.after r t).counters =
        (pruneRecord (noteAll r (e.visits r t)) pids).counters.recordCycle
          (.ofNat (reported e.rules (e.visits r t)).length) millis := by
  obtain ⟨call, w⟩ := t
  obtain ⟨called, read⟩ := enumerated?_eq_some_iff.mp listed
  obtain rfl : call = .cycle := called
  have listed : e.enumeration w = (.ok pids, (e.enumeration w).2) := Prod.ext read rfl
  obtain ⟨millis, cycled⟩ := e.cycle_of_ok listed r
  have visited : e.visits r ⟨.cycle, w⟩ = e.sweepVisits (e.source.host (e.enumeration w).2).1 pids
      r.registry (e.source.host (e.enumeration w).2).2 := by
    simp only [visits]
    rw [listed]
  rw [visited]
  refine ⟨?_, millis, ?_⟩
  · simp only [reply, answer, bind_apply, cycled, pure_apply]
  · simp only [after, answer, bind_apply, cycled, pure_apply]

/-- Counting none pruned is the same as not counting. -/
theorem pruneRecord_counters (r : Record) (alive : List Pid) :
    (pruneRecord r alive).counters =
      r.counters.recordPruned (.ofNat (r.registry.size - (r.registry.prune alive).size)) := by
  simp only [pruneRecord]
  split
  · rfl
  · rename_i none
    rw [Nat.eq_zero_of_not_pos none]
    simp [Counters.recordPruned]

/-- What a call adds to the counters. -/
theorem after_counters (e : Engine (StateM σ)) (r : Record) (t : Turn σ) :
    ∃ durations, durations.count = r.counters.cycleDuration.count + .ofNat (e.cycleCount r t) ∧
      (e.after r t).counters =
        { cyclesTotal := r.counters.cyclesTotal + .ofNat (e.cycleCount r t)
          cycleFailures := r.counters.cycleFailures + .ofNat (e.failureCount r t)
          processesReported := r.counters.processesReported + .ofNat (e.reportedCount r t)
          pidsFiltered :=
            r.counters.pidsFiltered + .ofNat (e.outcomeCount Outcome.isFiltered r t)
          pidsSkipped := r.counters.pidsSkipped + .ofNat (e.outcomeCount Outcome.isFailed r t)
          permissionDenied :=
            r.counters.permissionDenied + .ofNat (e.outcomeCount Outcome.isDenied r t)
          registryPruned := r.counters.registryPruned + .ofNat (e.prunedCount r t)
          cycleDuration := durations } := by
  by_cases called : t.call = .cycle
  · cases listed : e.enumerated? t with
    | none =>
      obtain ⟨⟨err, failed⟩, unvisited, counters⟩ := call_of_unlisted called listed r
      refine ⟨r.counters.cycleDuration, ?_, ?_⟩
      · simp [cycleCount, failed, Reply.cycled?]
      · simp [counters, cycleCount, failureCount, reportedCount, outcomeCount, prunedCount,
          cycleVisits_of_cycle called, failed, unvisited, listed, Reply.cycled?, Reply.isFailure,
          Counters.recordFailure]
    | some pids =>
      obtain ⟨cycled, millis, counters⟩ := call_of_listed listed r
      refine ⟨r.counters.cycleDuration.add millis, ?_, ?_⟩
      · simp [RunningStat.count_add, cycleCount, cycled, Reply.cycled?]
      · simp [counters, cycleCount, failureCount, reportedCount, outcomeCount, prunedCount,
          cycleVisits_of_cycle called, cycled, listed, Reply.cycled?, Reply.isFailure,
          Counters.recordCycle, pruneRecord_counters, Counters.recordPruned, noteAll_counters,
          noteAll_registry]
  · obtain ⟨unlisted, uncycled, fine, counters⟩ := call_of_other (e := e) called r
    refine ⟨r.counters.cycleDuration, ?_, ?_⟩
    · simp [cycleCount, uncycled]
    · simp [counters, cycleCount, failureCount, reportedCount, outcomeCount, prunedCount,
        cycleVisits_of_other called, unlisted, uncycled, fine]

/-- All ids of a cycle are filtered, skipped or sampled. -/
theorem outcomeCount_partition (r : Record) (t : Turn σ) :
    e.outcomeCount Outcome.isFiltered r t + e.outcomeCount Outcome.isFailed r t +
      e.outcomeCount Outcome.isSampled r t = e.enumeratedCount r t := by
  refine (outcomes_partition (e.cycleVisits r t)).trans ?_
  cases listed : e.enumerated? t with
  | some pids =>
    have called := (enumerated?_eq_some_iff.mp listed).1
    have visited := congrArg List.length (visits_pids listed r)
    rw [List.length_map] at visited
    simp only [cycleVisits_of_cycle called, visited, enumeratedCount, listed, Option.getD_some]
  | none =>
    have unvisited : e.cycleVisits r t = [] := by
      by_cases called : t.call = .cycle
      · exact (cycleVisits_of_cycle called).trans (call_of_unlisted called listed r).2.1
      · exact cycleVisits_of_other called
    simp only [unvisited, enumeratedCount, listed, Option.getD_none, List.length_nil]

/-- A cycle reports of the states that it has sampled. -/
theorem cycled?_states (r : Record) (t : Turn σ) :
    (e.reply r t).cycled?.getD [] = reported e.rules (e.cycleVisits r t) := by
  by_cases called : t.call = .cycle
  · rw [cycleVisits_of_cycle called]
    cases listed : e.enumerated? t with
    | some pids =>
      rw [(call_of_listed listed r).1]
      rfl
    | none =>
      obtain ⟨⟨err, failed⟩, unvisited, _⟩ := call_of_unlisted called listed r
      rw [failed, unvisited, reported_nil]
      rfl
  · rw [(call_of_other called r).2.1, cycleVisits_of_other called, reported_nil]
    rfl

theorem reportedCount_le (r : Record) (t : Turn σ) :
    e.reportedCount r t ≤ e.outcomeCount Outcome.isSampled r t := by
  rw [reportedCount, cycled?_states, reported, List.length_map, outcomeCount,
    ← length_sampledStates]
  exact (e.rules.top.select_sublist _).length_le

theorem reportedCount_of_inactive (inactive : e.rules.top.isActive = false) (r : Record)
    (t : Turn σ) : e.reportedCount r t = e.outcomeCount Outcome.isSampled r t := by
  rw [reportedCount, cycled?_states, reported, List.length_map, outcomeCount,
    ← length_sampledStates]
  simp only [TopRule.select, inactive, Bool.false_eq_true, if_false]

theorem denied_le (r : Record) (t : Turn σ) :
    e.outcomeCount Outcome.isDenied r t ≤ e.outcomeCount Outcome.isFailed r t :=
  List.countP_mono_left fun _ _ => Outcome.isFailed_of_isDenied

/-! ### What a run adds up to -/

section
variable {amount amount' : Record → Turn σ → Nat}

/-- What calls add up to, each for the record that it finds. -/
def totalFrom (e : Engine (StateM σ)) (amount : Record → Turn σ → Nat) :
    Record → List (Turn σ) → Nat
  | _, [] => 0
  | r, t :: turns => amount r t + e.totalFrom amount (e.after r t) turns

/-- What the calls of a run add up to. -/
def total (e : Engine (StateM σ)) (amount : Record → Turn σ → Nat) (turns : List (Turn σ)) : Nat :=
  e.totalFrom amount .empty turns

theorem totalFrom_concat (r : Record) (turns : List (Turn σ)) (t : Turn σ) :
    e.totalFrom amount r (turns ++ [t]) =
      e.totalFrom amount r turns + amount (e.runFrom r turns) t := by
  induction turns generalizing r with
  | nil => exact Nat.add_comm _ 0
  | cons u rest ih =>
    simp only [List.cons_append, totalFrom, ih, Nat.add_assoc]
    rfl

theorem total_concat (turns : List (Turn σ)) (t : Turn σ) :
    e.total amount (turns ++ [t]) = e.total amount turns + amount (e.run turns) t :=
  totalFrom_concat .empty turns t

theorem total_add (turns : List (Turn σ)) :
    e.total (fun r t => amount r t + amount' r t) turns =
      e.total amount turns + e.total amount' turns := by
  induction turns using List.reverseRecOn with
  | nil => rfl
  | append_singleton turns t ih =>
    simp only [total_concat, ih]
    omega

theorem total_mono (less : ∀ r t, amount r t ≤ amount' r t) (turns : List (Turn σ)) :
    e.total amount turns ≤ e.total amount' turns := by
  induction turns using List.reverseRecOn with
  | nil => exact Nat.le_refl 0
  | append_singleton turns t ih =>
    have here := less (e.run turns) t
    simp only [total_concat]
    omega

end

/-- After a run the counters show what its calls add up to, as far as their range goes. -/
theorem run_counters (e : Engine (StateM σ)) (turns : List (Turn σ)) :
    ∃ durations, durations.count = .ofNat (e.total e.cycleCount turns) ∧
      (e.run turns).counters =
        { cyclesTotal := .ofNat (e.total e.cycleCount turns)
          cycleFailures := .ofNat (e.total e.failureCount turns)
          processesReported := .ofNat (e.total e.reportedCount turns)
          pidsFiltered := .ofNat (e.total (e.outcomeCount Outcome.isFiltered) turns)
          pidsSkipped := .ofNat (e.total (e.outcomeCount Outcome.isFailed) turns)
          permissionDenied := .ofNat (e.total (e.outcomeCount Outcome.isDenied) turns)
          registryPruned := .ofNat (e.total e.prunedCount turns)
          cycleDuration := durations } := by
  induction turns using List.reverseRecOn with
  | nil => exact ⟨.empty, rfl, rfl⟩
  | append_singleton turns t ih =>
    obtain ⟨durations, count, counters⟩ := ih
    obtain ⟨longer, count', counters'⟩ := e.after_counters (e.run turns) t
    refine ⟨longer, ?_, ?_⟩
    · rw [count', counters, count, total_concat, UInt64.ofNat_add]
    · rw [run_concat, counters', counters]
      simp only [total_concat, UInt64.ofNat_add]

/-- A call changes the size of the registry by the entries that it makes, drops and prunes. -/
theorem after_size (e : Engine (StateM σ)) (r : Record) (t : Turn σ) :
    (e.after r t).registry.size + e.droppedCount r t + e.prunedCount r t =
      r.registry.size + e.createdCount r t := by
  have settled := (e.visits_chained r t).settleAll_size
  rw [after_registry]
  unfold prunedCount droppedCount createdCount
  cases e.enumerated? t with
  | none => exact settled
  | some pids =>
    have fewer := Registry.size_prune_le (r.registry.settleAll (e.visits r t)) pids
    simp only
    omega

theorem run_size (e : Engine (StateM σ)) (turns : List (Turn σ)) :
    (e.run turns).registry.size + e.total e.droppedCount turns + e.total e.prunedCount turns =
      e.total e.createdCount turns := by
  induction turns using List.reverseRecOn with
  | nil => rfl
  | append_singleton turns t ih =>
    have step := e.after_size (e.run turns) t
    simp only [run_concat, total_concat]
    omega

/-- The totals of a run are in the range of the counters. -/
structure Fits (e : Engine (StateM σ)) (turns : List (Turn σ)) : Prop where
  cycles : e.total e.cycleCount turns < UInt64.size
  failures : e.total e.failureCount turns < UInt64.size
  enumerated : e.total e.enumeratedCount turns < UInt64.size
  created : e.total e.createdCount turns < UInt64.size

theorem total_outcomes (e : Engine (StateM σ)) (turns : List (Turn σ)) :
    e.total (e.outcomeCount Outcome.isFiltered) turns +
      e.total (e.outcomeCount Outcome.isFailed) turns +
      e.total (e.outcomeCount Outcome.isSampled) turns = e.total e.enumeratedCount turns := by
  rw [← total_add, ← total_add]
  exact congrArg (e.total · turns) (funext₂ outcomeCount_partition)

/-- The counters tell what the calls of a run add up to. -/
structure Balanced (e : Engine (StateM σ)) (turns : List (Turn σ)) (c : Counters) : Prop where
  cycles : c.cyclesTotal.toNat = e.total e.cycleCount turns
  durations : c.cycleDuration.count = c.cyclesTotal
  failures : c.cycleFailures.toNat = e.total e.failureCount turns
  reported : c.processesReported.toNat = e.total e.reportedCount turns
  filtered : c.pidsFiltered.toNat = e.total (e.outcomeCount Outcome.isFiltered) turns
  skipped : c.pidsSkipped.toNat = e.total (e.outcomeCount Outcome.isFailed) turns
  denied : c.permissionDenied.toNat = e.total (e.outcomeCount Outcome.isDenied) turns
  pruned : c.registryPruned.toNat = e.total e.prunedCount turns

theorem Fits.balanced (fits : e.Fits turns) : e.Balanced turns (e.run turns).counters := by
  obtain ⟨durations, count, counters⟩ := e.run_counters turns
  -- No count is greater than one of the totals that are known to be in range.
  have parts := e.total_outcomes turns
  have selected : e.total e.reportedCount turns ≤
      e.total (e.outcomeCount Outcome.isSampled) turns := total_mono reportedCount_le turns
  have fewer : e.total (e.outcomeCount Outcome.isDenied) turns ≤
      e.total (e.outcomeCount Outcome.isFailed) turns := total_mono denied_le turns
  have size := e.run_size turns
  obtain ⟨cycles, failures, enumerated, created⟩ := fits
  have whole {n : Nat} (small : n < UInt64.size) : (UInt64.ofNat n).toNat = n :=
    UInt64.toNat_ofNat_of_lt' small
  rw [counters]
  exact ⟨whole cycles, count, whole failures, whole (by omega), whole (by omega),
    whole (by omega), whole (by omega), whole (by omega)⟩

/-- The books balance. As long as the totals of a run are in range, the counters tell how many
cycles came about, which is also the number of times taken, and how many failed; how many states
cycles have reported; how many of the ids that cycles enumerated were filtered or skipped, which
leaves those that were sampled, and all of these are reported where there is no selection; and how
many were skipped because access was denied. Other calls change no counter. And at every moment of
the next call, the registry has as many entries as visits have made, less those that visits have
dropped and those that cycles have counted as pruned. -/
theorem accounts_balance (e : Engine (StateM σ)) (turns : List (Turn σ)) (fits : e.Fits turns) :
    let r := e.run turns
    let c := r.counters
    c.cyclesTotal.toNat = e.total e.cycleCount turns ∧ c.cycleDuration.count = c.cyclesTotal ∧
    c.cycleFailures.toNat = e.total e.failureCount turns ∧
    c.processesReported.toNat = e.total e.reportedCount turns ∧
    c.pidsFiltered.toNat = e.total (e.outcomeCount Outcome.isFiltered) turns ∧
    c.pidsSkipped.toNat = e.total (e.outcomeCount Outcome.isFailed) turns ∧
    c.pidsFiltered.toNat + c.pidsSkipped.toNat +
      e.total (e.outcomeCount Outcome.isSampled) turns = e.total e.enumeratedCount turns ∧
    (e.rules.top.isActive = false →
      c.processesReported.toNat + c.pidsFiltered.toNat + c.pidsSkipped.toNat =
        e.total e.enumeratedCount turns) ∧
    c.permissionDenied.toNat = e.total (e.outcomeCount Outcome.isDenied) turns ∧
    c.permissionDenied.toNat ≤ c.pidsSkipped.toNat ∧
    (∀ r t, t.call ≠ .cycle → (e.after r t).counters = r.counters) ∧
    ∀ t before later, e.visits r t = before ++ later →
      (r.registry.settleAll before).size +
          (e.total e.droppedCount turns + before.countP Visit.drops) + c.registryPruned.toNat =
        e.total e.createdCount turns + before.countP Visit.creates := by
  intro r c
  have balanced : e.Balanced turns c := fits.balanced
  refine ⟨balanced.cycles, balanced.durations, balanced.failures, balanced.reported,
    balanced.filtered, balanced.skipped, ?_, fun inactive => ?_, balanced.denied, ?_,
    fun r t other => (call_of_other other r).2.2.2, fun t before later split => ?_⟩
  · rw [balanced.filtered, balanced.skipped, total_outcomes]
  · have all : e.total e.reportedCount turns = e.total (e.outcomeCount Outcome.isSampled) turns :=
      congrArg (e.total · turns) (funext₂ (reportedCount_of_inactive inactive))
    have parts := e.total_outcomes turns
    rw [balanced.reported, balanced.filtered, balanced.skipped]
    omega
  · rw [balanced.denied, balanced.skipped]
    exact total_mono denied_le turns
  · have chained := e.visits_chained r t
    rw [split] at chained
    have within := chained.front.settleAll_size
    have size : r.registry.size + e.total e.droppedCount turns + e.total e.prunedCount turns =
        e.total e.createdCount turns := e.run_size turns
    rw [balanced.pruned]
    omega

/-- Of four processes two are sampled first, one of which then goes while it is sampled and is
sampled by its id again, before a cycle finds neither; one has another name, and one cannot be
read. -/
theorem medley_accounts_balance :
    let e := Medley.engine .off
    let turns : List (Turn Medley) :=
      [⟨.cycle, [(5, .works 5), (7, .works 7), (8, .hides), (9, .idles)], 1⟩,
        ⟨.cycle, [(5, .works 6), (7, .leaves), (8, .hides), (9, .idles)], 2⟩,
        ⟨.one 7, [(7, .works 1)], 3⟩, ⟨.list, [(7, .works 1)], 3⟩, ⟨.cycle, [(8, .hides)], 4⟩]
    let r := e.run turns
    let next : Turn Medley := ⟨.cycle, [(5, .works 1), (8, .hides)], 5⟩
    e.Fits turns ∧ e.rules.top.isActive = false ∧
      r.counters.cyclesTotal.toNat = 3 ∧ r.counters.processesReported.toNat = 3 ∧
      r.counters.pidsFiltered.toNat = 2 ∧ r.counters.pidsSkipped.toNat = 4 ∧
      r.counters.permissionDenied.toNat = 3 ∧
      r.counters.processesReported.toNat + r.counters.pidsFiltered.toNat +
        r.counters.pidsSkipped.toNat = 9 ∧
      (e.after r ⟨.one 7, [(7, .leaves)], 5⟩).counters = r.counters ∧
      r.counters.registryPruned.toNat = 2 ∧ e.total e.droppedCount turns = 1 ∧
      e.total e.createdCount turns = 3 ∧ r.registry.size + 1 + 2 = 3 ∧
      (r.registry.settleAll (e.visits r next)).size + 1 + 2 = 3 + 1 := by
  intro e turns r next
  have fits : e.Fits turns := by
    constructor <;> decide +kernel
  obtain ⟨cycles, _, _, reported, filtered, skipped, _, all, denied, _, others, size⟩ :=
    accounts_balance e turns fits
  have dropped : e.total e.droppedCount turns = 1 := by decide +kernel
  have created : e.total e.createdCount turns = 3 := by decide +kernel
  have pruned : r.counters.registryPruned.toNat = 2 := by decide +kernel
  have now := size next [] (e.visits r next) rfl
  have later := size next (e.visits r next) [] (List.append_nil _).symm
  have drops : (e.visits r next).countP Visit.drops = 0 := by decide +kernel
  have creates : (e.visits r next).countP Visit.creates = 1 := by decide +kernel
  rw [dropped, created, pruned] at now later
  rw [drops, creates] at later
  refine ⟨fits, rfl, cycles.trans (by decide +kernel), reported.trans (by decide +kernel),
    filtered.trans (by decide +kernel), skipped.trans (by decide +kernel),
    denied.trans (by decide +kernel), (all rfl).trans (by decide +kernel),
    others r ⟨.one 7, [(7, .leaves)], 5⟩ (by decide), pruned, dropped, created, now, later⟩

end Engine

end ProcMeter
