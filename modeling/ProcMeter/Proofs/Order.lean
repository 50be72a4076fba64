import ProcMeter.Proofs.Locality
import ProcMeter.Proofs.Schedule

/-! A cycle may take its processes in any order, where each status shows the process that was asked
for. The outcome of a visit is settled by the registry from before the cycle, and outcomes of
different processes can be noted in any order. A status that shows another process would have its
state kept in the place of the other's, and then the order would tell. -/
namespace ProcMeter.Engine

variable {e : Engine Id} {registry registry' : Registry} {host : Host} {status : Status} {pid : Pid}
  {pids pids' schedule schedule' : List Pid} {s : ProcState}

/-- The engine with another enumeration and another clock. -/
def listing (e : Engine Id) (pids : List Pid) (clock : Float) : Engine Id :=
  { e with source := { e.source with pids := Except.ok pids }, stopwatch := clock }

theorem fill_status (filled : e.fill registry host status = .ok s) : s.status = status := by
  simp only [fill, bind_still] at filled
  split at filled
  · contradiction
  · split at filled
    · contradiction
    · obtain rfl := Except.ok.inj filled
      exact (ProcState.ratedAgainst_keeps _ _ _).1

section
variable (asked : ∀ {pid : Pid} {status : Status}, e.source.status pid = .ok status →
  status.pid = pid)
include asked

theorem visit_about (registry : Registry) (host : Host) (pid : Pid) :
    (e.visit registry host pid : Outcome).About pid := by
  intro s sampled
  simp only [visit, bind_still] at sampled
  split at sampled
  · contradiction
  · rename_i status read
    split at sampled
    · split at sampled
      · contradiction
      · rename_i state filled
        obtain rfl := Outcome.sampled.inj sampled
        rw [ProcState.pid, fill_status filled, asked read]
    · contradiction

theorem visit_local (same : registry.get? pid = registry'.get? pid) :
    e.visit registry host pid = e.visit registry' host pid := by
  simp only [visit, bind_still]
  cases read : e.source.status pid with
  | error err => rfl
  | ok status =>
    rw [← asked read] at same
    simp only [e.fill_local host same]

/-- When no process is visited twice, each visit comes to what it would come to alone. -/
theorem visitEach_apart (base : Registry) (host : Host) (distinct : pids.Nodup) (r : Record)
    (fresh : ∀ p ∈ pids, r.registry.get? p = base.get? p) :
    e.visitEach host pids r = (pids.map fun p => (p, e.visit base host p),
      pids.foldl (fun r p => note r p (e.visit base host p)) r) := by
  induction pids generalizing r with
  | nil => rfl
  | cons pid rest ih =>
    obtain ⟨absent, distinct⟩ := List.nodup_cons.mp distinct
    rw [visitEach_cons, visit_local asked (fresh pid List.mem_cons_self)]
    -- Those still to come have their entries from before the cycle, as no process comes twice.
    have later : ∀ p ∈ rest,
        (note r pid (e.visit base host pid)).registry.get? p = base.get? p := by
      intro p member
      have other : pid ≠ p := fun same => absent (same ▸ member)
      rw [note_registry, Registry.settle_get?_other (visit_about asked base host pid) other]
      exact fresh p (List.mem_cons_of_mem _ member)
    simp only [ih distinct _ later, List.map_cons, List.foldl_cons]

end

/-- Outcomes of different processes can be noted in either order. -/
theorem note_comm {p q : Pid} {first second : Outcome} (about : first.About p)
    (about' : second.About q) (apart : p ≠ q) (r : Record) :
    note (note r p first) q second = note (note r q second) p first := by
  simp only [note_eq, Record.mk.injEq]
  exact ⟨Registry.settle_comm about about' apart r.registry, r.counters.tally_comm first second⟩

/-- The state that a cycle reports of a process, if it reports one. -/
def stateOf? (e : Engine Id) (registry : Registry) (pid : Pid) : Option ProcState :=
  (e.visit registry e.source.host pid : Outcome).state?.map (shown e.rules)

theorem pruneRecord_perm (permuted : pids.Perm pids') (r : Record) :
    pruneRecord r pids = pruneRecord r pids' := by
  have kept : r.registry.prune pids = r.registry.prune pids' := by
    simp only [Registry.prune, permuted.contains_eq]
  simp only [pruneRecord, kept]

section
variable (asked : ∀ {pid : Pid} {status : Status}, e.source.status pid = .ok status →
  status.pid = pid)
include asked

theorem foldl_note_perm (permuted : pids.Perm pids') (registry : Registry) (host : Host)
    (r : Record) :
    pids.foldl (fun r p => note r p (e.visit registry host p)) r =
      pids'.foldl (fun r p => note r p (e.visit registry host p)) r := by
  apply permuted.foldl_eq'
  intro p _ q _ r
  by_cases apart : p = q
  · rw [apart]
  · exact note_comm (visit_about asked registry host p) (visit_about asked registry host q) apart r

/-- Whatever the schedule, a cycle visits every process as if it were the only one. -/
theorem visitEach_schedule (distinct : pids.Nodup) (visited : schedule.Perm pids) (r : Record) :
    statesOf pids (e.visitEach e.source.host schedule r).1 =
        pids.filterMap (fun p => (e.visit r.registry e.source.host p : Outcome).state?) ∧
      (e.visitEach e.source.host schedule r).2 =
        pids.foldl (fun r' p => note r' p (e.visit r.registry e.source.host p)) r := by
  rw [visitEach_apart asked r.registry e.source.host (visited.nodup_iff.mpr distinct) r
    fun _ _ => rfl]
  refine ⟨List.filterMap_congr fun pid member => ?_, foldl_note_perm asked visited _ _ r⟩
  rw [List.lookup_graph _ (visited.mem_iff.mpr member)]
  rfl

/-- A cycle comes to the same by any schedule. -/
theorem cycleIn_eq_cycle (listed : e.source.pids = .ok pids) (distinct : pids.Nodup)
    (visited : schedule.Perm pids) (r : Record) : e.cycleIn schedule r = e.cycle r := by
  obtain ⟨states, noted⟩ := visitEach_schedule asked distinct visited r
  obtain ⟨states', noted'⟩ := visitEach_schedule asked distinct (.refl pids) r
  rw [← cycleIn_enumeration listed distinct]
  simp only [cycleIn, bind_still, listed, states, states', noted, noted']

/-- What a cycle comes to when its rule selects nothing. -/
theorem cycle_listing (unselective : e.rules.top.isActive = false) (distinct : pids.Nodup)
    (clock : Float) (r : Record) :
    let visit p := e.visit r.registry e.source.host p
    let kept := pruneRecord (pids.foldl (fun r p => note r p (visit p)) r) pids
    let states := pids.filterMap (e.stateOf? r.registry)
    (e.listing pids clock).cycle r = (.ok states,
      { kept with counters :=
        kept.counters.recordCycle (.ofNat states.length) (clock - clock) }) := by
  intro visit kept states
  have swept : (e.listing pids clock).sweep e.source.host pids r =
      (pids.filterMap fun p => (visit p).state?, pids.foldl (fun r p => note r p (visit p)) r) := by
    obtain ⟨found, noted⟩ :=
      (e.listing pids clock).visitEach_schedule asked distinct (.refl pids) r
    rw [sweep_eq_visitEach distinct]
    exact Prod.ext found noted
  have selected : (e.rules.top.select (pids.filterMap fun p => (visit p).state?)).map
      (shown e.rules) = states := by
    simp only [TopRule.select, unselective, Bool.false_eq_true, if_false, List.map_filterMap]
    rfl
  simp only [cycle, bind_still, listing] at swept ⊢
  rw [swept]
  simp only [selected]
  rfl

end

/-- A cycle does not depend on the order of its processes. Take sources that answer for the process
they are asked about, two enumerations of the same processes, neither with any process twice, and a
rule that selects none: by whatever schedules the two cycles visit their processes, they leave the
same registry and the same counts, but for the times that they took, and they report the same
states, each in the order of its own enumeration. -/
theorem cycle_ignores_order (e : Engine Id) (r : Record) (asked : e.ShowsAsked)
    (unselective : e.rules.top.isActive = false) (distinct : pids.Nodup)
    (permuted : pids.Perm pids') (visited : schedule.Perm pids) (visited' : schedule'.Perm pids')
    (clock clock' : Float) :
    let one := (e.listing pids clock).cycleIn schedule r
    let other := (e.listing pids' clock').cycleIn schedule' r
    (one = (e.listing pids clock).cycle r ∧ other = (e.listing pids' clock').cycle r) ∧
      one.2.registry = other.2.registry ∧ one.2.counters.untimed = other.2.counters.untimed ∧
      one.1 = .ok (pids.filterMap (e.stateOf? r.registry)) ∧
      other.1 = .ok (pids'.filterMap (e.stateOf? r.registry)) ∧
      (pids.filterMap (e.stateOf? r.registry)).Perm (pids'.filterMap (e.stateOf? r.registry)) ∧
      ∀ pid s, e.stateOf? r.registry pid = some s → s.pid = pid := by
  intro one other
  have asked {pid : Pid} {status : Status} := asked pid status
  have distinct' := permuted.nodup_iff.mp distinct
  have usual : one = (e.listing pids clock).cycle r :=
    cycleIn_eq_cycle (e := e.listing pids clock) asked rfl distinct visited r
  have usual' : other = (e.listing pids' clock').cycle r :=
    cycleIn_eq_cycle (e := e.listing pids' clock') asked rfl distinct' visited' r
  refine ⟨⟨usual, usual'⟩, ?_⟩
  have states := permuted.filterMap (e.stateOf? r.registry)
  have noted := foldl_note_perm asked permuted r.registry e.source.host r
  simp only [usual, usual', cycle_listing asked unselective distinct,
    cycle_listing asked unselective distinct', ← pruneRecord_perm permuted, ← noted,
    ← states.length_eq]
  refine ⟨trivial, Counters.untimed_recordCycle rfl _ _ _, trivial, trivial, states, ?_⟩
  intro pid s found
  obtain ⟨state, sampled, rfl⟩ := Option.map_eq_some_iff.mp found
  rw [shown_pid]
  exact visit_about asked r.registry e.source.host pid state (Outcome.state?_eq_some_iff.mp sampled)

/-- Three processes, of which the second has gone since it was listed, in both orders. -/
theorem crowd_cycle_ignores_order :
    let e := Crowd.engine.still ⟨[(7, 5), (9, 6)], 1⟩
    let pids : List Pid := [7, 8, 9]
    let pids' : List Pid := [9, 8, 7]
    let schedule : List Pid := [8, 9, 7]
    e.ShowsAsked ∧ e.rules.top.isActive = false ∧ pids.Nodup ∧ pids.Perm pids' ∧
      schedule.Perm pids ∧ schedule.Perm pids' ∧
      ((e.listing pids 0).cycleIn schedule .empty).2.registry =
        ((e.listing pids' 1).cycleIn schedule .empty).2.registry ∧
      ((e.listing pids' 1).cycle .empty).1 = .ok (pids'.filterMap (e.stateOf? .empty)) ∧
      (pids'.filterMap (e.stateOf? .empty)).map ProcState.pid = [9, 7] := by
  intro e pids pids' schedule
  have asked : e.ShowsAsked := fun _ _ read => Crowd.status_pid (Prod.ext read rfl)
  have distinct : pids.Nodup := by decide
  have permuted : pids.Perm pids' := by decide
  have visited : schedule.Perm pids := by decide
  have visited' : schedule.Perm pids' := by decide
  obtain ⟨⟨_, usual⟩, registries, _, _, other, _⟩ :=
    cycle_ignores_order e .empty asked rfl distinct permuted visited visited' 0 1
  rw [usual] at other
  exact ⟨asked, rfl, distinct, permuted, visited, visited', registries, other, by decide +kernel⟩

/-- A status that shows another process makes the order tell. Where both statuses show 7, its entry
is that of the process that comes last; and where each shows the other, the states come against the
order of the enumeration. -/
theorem impostors_order_tells :
    let merged := (impostors fun _ => some 7).still ()
    let crossed := (impostors fun pid => some (15 - pid)).still ()
    let kept (pids : List Pid) :=
      (((merged.listing pids 0).cycle .empty).2.registry.get? 7).map (·.status.name)
    ([7, 8] : List Pid).Nodup ∧ ([7, 8] : List Pid).Perm [8, 7] ∧
      merged.rules.top.isActive = false ∧ crossed.rules.top.isActive = false ∧
      kept [7, 8] = some "second" ∧ kept [8, 7] = some "first" ∧
      ((crossed.listing [7, 8] 0).cycle .empty).1.toOption.map (List.map ProcState.pid) =
        some [8, 7] ∧
      ¬ ∀ (e : Engine Id) (r : Record) (pids pids' : List Pid) (clock clock' : Float),
        e.rules.top.isActive = false → pids.Nodup → pids.Perm pids' →
          ((e.listing pids clock).cycle r).2.registry =
            ((e.listing pids' clock').cycle r).2.registry := by
  intro merged crossed kept
  have last : kept [7, 8] = some "second" := by decide +kernel
  have first : kept [8, 7] = some "first" := by decide +kernel
  refine ⟨by decide, by decide, rfl, rfl, last, first, by decide +kernel, fun ignored => ?_⟩
  have same := ignored merged .empty [7, 8] [8, 7] 0 0 rfl (by decide) (by decide)
  have names : kept [7, 8] = kept [8, 7] :=
    congrArg (fun registry => (registry.get? 7).map (·.status.name)) same
  rw [last, first] at names
  exact absurd names (by decide)

end ProcMeter.Engine
