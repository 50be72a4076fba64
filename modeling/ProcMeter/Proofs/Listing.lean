import ProcMeter.Proofs.Accounting
import ProcMeter.Proofs.Refinement
import ProcMeter.Proofs.Sampling

/-! Listing processes and sampling them agree. Both enumerate the same processes and read the same
statuses, and a cycle leaves out of the listed processes just those that it cannot sample. They part
when there are no patterns, as then every process is listed and none is sampled. Here, too, the
world stands still. -/
namespace ProcMeter

/-- What is made of the elements under `f` comes in the same order under any `h` that agrees. -/
theorem map_filterMap_sublist {α β γ : Type} {f : α → Option β} {g : β → γ} {h : α → Option γ}
    (agrees : ∀ x y, f x = some y → h x = some (g y)) (xs : List α) :
    ((xs.filterMap f).map g).Sublist (xs.filterMap h) := by
  induction xs with
  | nil => exact .slnil
  | cons x rest ih =>
    cases found : f x with
    | none =>
      rw [List.filterMap_cons_none found]
      exact ih.trans ((List.sublist_cons_self x rest).filterMap h)
    | some y =>
      rw [List.filterMap_cons_some found, List.filterMap_cons_some (agrees x y found),
        List.map_cons]
      exact ih.cons_cons (g y)

namespace Engine

variable {e : Engine Id} {r : Record} {registry : Registry} {host : Host} {status : Status}
  {pid : Pid} {pids : List Pid} {s : ProcState}

/-- A process cannot be sampled although its status has been read. -/
inductive Unsampled (e : Engine Id) (registry : Registry) (status : Status) : Prop where
  | sample {err : SampleError} (unread : e.source.sample status.pid = .error err)
  | identity {err : SampleError} (needed : NeedsIdentity e.rules registry status)
      (unread : e.source.identity status.pid = .error err) (gone : err.isGone = true)

theorem identityFor_known_or_gone (e : Engine Id) (registry : Registry) (status : Status) :
    (∃ found, e.identityFor registry status = Except.ok found ∧
      ∀ err, NeedsIdentity e.rules registry status → e.source.identity status.pid = .error err →
        err.isGone = false) ∨
    ∃ err, e.identityFor registry status = Except.error err ∧
      NeedsIdentity e.rules registry status ∧ e.source.identity status.pid = .error err ∧
        err.isGone = true := by
  simp only [← cachedIdentity?_eq_none_iff, identityFor]
  cases cachedIdentity? e.rules registry status with
  | some identity => exact .inl ⟨(identity, true), rfl, fun _ unknown => by contradiction⟩
  | none =>
    simp only [readIdentity, bind_still]
    cases e.source.identity status.pid with
    | ok identity => exact .inl ⟨_, rfl, fun _ _ refused => by contradiction⟩
    | error err =>
      dsimp only
      cases gone : err.isGone with
      | true => exact .inr ⟨err, rfl, trivial, rfl, gone⟩
      | false =>
        refine .inl ⟨_, rfl, fun err' _ refused => ?_⟩
        obtain rfl := Except.error.inj refused
        exact gone

/-- Filling in fails just when the process cannot be sampled. -/
theorem fill_ok_or_unsampled (e : Engine Id) (registry : Registry) (host : Host) (status : Status) :
    (∃ s, e.fill registry host status = .ok s ∧ ¬ e.Unsampled registry status) ∨
      ∃ err, e.fill registry host status = .error err ∧ e.Unsampled registry status := by
  simp only [fill, bind_still]
  cases took : e.source.sample status.pid with
  | error err => exact .inr ⟨err, rfl, .sample took⟩
  | ok sample =>
    rcases e.identityFor_known_or_gone registry status with
      ⟨found, known, present⟩ | ⟨err, unknown, needed, refused, gone⟩
    · refine .inl ⟨_, by rw [known]; rfl, fun unsampled => ?_⟩
      cases unsampled with
      | sample unread => simp [took] at unread
      | identity needed refused gone => simp [present _ needed refused] at gone
    · exact .inr ⟨err, by rw [unknown]; rfl, .identity needed refused gone⟩

/-- A cycle has a state of a process just when the name matches and the process can be sampled. -/
theorem stateOf?_some_or_none (e : Engine Id) (registry : Registry) (pid : Pid) :
    (∃ s, e.stateOf? registry pid = some s ∧ e.source.status pid = .ok s.status ∧
      e.rules.procs.accepts s.status.name = true ∧ ¬ e.Unsampled registry s.status) ∨
    e.stateOf? registry pid = none ∧ ∀ status, e.source.status pid = .ok status →
      e.rules.procs.accepts status.name = true → e.Unsampled registry status := by
  simp only [stateOf?, visit, bind_still]
  cases read : e.source.status pid with
  | error err => exact .inr ⟨rfl, fun _ read => by contradiction⟩
  | ok status =>
    dsimp only
    -- the name decides first, then whether the process can be filled in
    cases accepted : e.rules.procs.accepts status.name with
    | false =>
      refine .inr ⟨rfl, fun status' same matched => ?_⟩
      obtain rfl := Except.ok.inj same
      simp [accepted] at matched
    | true =>
      rcases e.fill_ok_or_unsampled registry e.source.host status with
        ⟨s, filled, sampled⟩ | ⟨err, failed, unsampled⟩
      · have shows : (shown e.rules s).status = status := by
          rw [shown_status, fill_status filled]
        refine .inl ⟨shown e.rules s, by rw [filled]; rfl, ?_⟩
        rw [shows]
        exact ⟨rfl, accepted, sampled⟩
      · refine .inr ⟨by rw [failed]; rfl, fun status' same _ => ?_⟩
        obtain rfl := Except.ok.inj same
        exact unsampled

/-- The rows of a list, of each process alone. -/
def rows (e : Engine Id) (pids : List Pid) : List ListEntry :=
  pids.filterMap fun pid => rowOf? e.rules pid (e.source.status pid)

theorem listed_eq (e : Engine Id) (pids : List Pid) : e.listed pids = e.rows pids := by
  unfold rows
  induction pids with
  | nil => rfl
  | cons pid rest ih =>
    rw [listed_step]
    simp only [bind_still, ih, List.filterMap_cons]
    cases rowOf? e.rules pid (e.source.status pid) with
    | none => rfl
    | some row => rfl

theorem status_of_mem_rows {row : ListEntry} (member : row ∈ e.rows pids) :
    row.pid ∈ pids ∧ ∃ status, e.source.status row.pid = .ok status ∧ row.state = status.state ∧
      e.rules.procs.acceptsOrEmpty status.name = true := by
  obtain ⟨pid, there, shows⟩ := List.mem_filterMap.mp member
  cases read : e.source.status pid with
  | error err => simp [read, rowOf?] at shows
  | ok status =>
    simp only [read, rowOf?, Option.ite_none_right_eq_some, Option.some.injEq] at shows
    obtain ⟨accepted, rfl⟩ := shows
    exact ⟨there, status, read, rfl, accepted⟩

/-- How a list shows a state. -/
def rowOf (s : ProcState) : ListEntry := ⟨s.pid, s.status.state⟩

/-- The states of a cycle are listed, in the same order. -/
theorem states_sublist_rows (asked : e.ShowsAsked) (registry : Registry) (pids : List Pid) :
    ((pids.filterMap (e.stateOf? registry)).map rowOf).Sublist (e.rows pids) := by
  refine map_filterMap_sublist (fun pid s found => ?_) pids
  rcases e.stateOf?_some_or_none registry pid with
    ⟨s', found', read, accepted, _⟩ | ⟨missing, _⟩
  · obtain rfl := Option.some.inj (found.symm.trans found')
    rw [read, ← asked pid s.status read]
    simp only [rowOf?, Matcher.acceptsOrEmpty, accepted, Bool.or_true, if_true]
    rfl
  · simp [found] at missing

theorem status_of_mem_states (asked : e.ShowsAsked)
    (member : s ∈ pids.filterMap (e.stateOf? registry)) :
    s.pid ∈ pids ∧ e.source.status s.pid = .ok s.status ∧
      e.rules.procs.accepts s.status.name = true ∧ ¬ e.Unsampled registry s.status := by
  obtain ⟨pid, there, found⟩ := List.mem_filterMap.mp member
  rcases e.stateOf?_some_or_none registry pid with ⟨s', found', read, sampled⟩ | ⟨missing, _⟩
  · obtain rfl := Option.some.inj (found.symm.trans found')
    obtain rfl : s.pid = pid := asked pid s.status read
    exact ⟨there, read, sampled⟩
  · simp [found] at missing

/-- The processes that a cycle has states of. -/
theorem mem_states_iff (asked : e.ShowsAsked) :
    pid ∈ (pids.filterMap (e.stateOf? registry)).map ProcState.pid ↔
      pid ∈ pids ∧ ∃ status, e.source.status pid = .ok status ∧
        e.rules.procs.accepts status.name = true ∧ ¬ e.Unsampled registry status := by
  rw [List.mem_map]
  constructor
  · rintro ⟨s, member, rfl⟩
    obtain ⟨there, sampled⟩ := status_of_mem_states asked member
    exact ⟨there, s.status, sampled⟩
  · rintro ⟨there, status, read, accepted, sampled⟩
    rcases e.stateOf?_some_or_none registry pid with ⟨s, found, read', _⟩ | ⟨_, unsampled⟩
    · exact ⟨s, List.mem_filterMap.mpr ⟨pid, there, found⟩, asked pid s.status read'⟩
    · exact absurd (unsampled status read accepted) sampled

theorem listing_self (listed : e.source.pids = .ok pids) : e.listing pids e.stopwatch = e := by
  obtain ⟨rules, source, network, cgroups, stopwatch⟩ := e
  obtain ⟨enumeration, status, sample, identity, host⟩ := source
  obtain rfl : enumeration = .ok pids := listed
  rfl

theorem cycle_states (unselective : e.rules.top.isActive = false) (asked : e.ShowsAsked)
    (listed : e.source.pids = .ok pids) (distinct : pids.Nodup) (r : Record) :
    (e.cycle r).1 = .ok (pids.filterMap (e.stateOf? r.registry)) := by
  have cycled := cycle_listing (fun read => asked _ _ read) unselective distinct e.stopwatch r
  rw [listing_self listed] at cycled
  rw [cycled]

/-! ### Counting what is filtered -/

/-- Every process that a cycle has nothing to do with is counted as filtered. -/
theorem sweep_filtered (e : Engine Id) (host : Host) (pids : List Pid) (r : Record) :
    (e.sweep host pids r).2.counters.pidsFiltered =
      r.counters.pidsFiltered + .ofNat (pids.countP fun pid => !e.due pid) := by
  induction pids generalizing r with
  | nil => exact (UInt64.add_zero _).symm
  | cons pid rest ih =>
    have noted : (note r pid (e.visit r.registry host pid)).counters.pidsFiltered =
        r.counters.pidsFiltered + .ofNat (!e.due pid).toNat := by
      rw [note_eq, Counters.tally_eq]
      cases due : e.due pid with
      | false => rw [visit_of_not_due due]; rfl
      | true =>
        rw [visit_of_due due]
        cases e.probe r.registry host pid <;> rfl
    simp only [sweep_cons, ih, noted, countP_cons_toNat, UInt64.ofNat_add, UInt64.add_assoc]

theorem listStates_eq (e : Engine Id) :
    e.listStates = (e.source.pids : Except CycleError (List Pid)).map e.rows := by
  simp only [listStates, bind_still, listed_eq]
  cases e.source.pids <;> rfl

theorem listStates_eq_error_iff (err : CycleError) :
    e.listStates = .error err ↔ e.source.pids = .error err := by
  rw [listStates_eq]
  cases e.source.pids with
  | error err' =>
    exact ⟨fun failed => congrArg Except.error (Except.error.inj failed),
      fun failed => congrArg Except.error (Except.error.inj failed)⟩
  | ok pids => exact ⟨fun failed => by contradiction, fun failed => by contradiction⟩

theorem cycle_of_sweep (listed : e.source.pids = .ok pids) (r : Record) :
    let swept := e.sweep e.source.host pids r
    let selected := (e.rules.top.select swept.1).map (shown e.rules)
    let kept := pruneRecord swept.2 pids
    ∃ millis, e.cycle r = (.ok selected,
      { kept with counters := kept.counters.recordCycle (.ofNat selected.length) millis }) := by
  simp only [cycle, bind_still, listed]
  exact ⟨_, rfl⟩

theorem cycle_eq_error_iff (r : Record) (err : CycleError) :
    (e.cycle r).1 = .error err ↔ e.source.pids = .error err := by
  cases listed : e.source.pids with
  | error err' =>
    simp only [cycle, bind_still, listed]
    exact ⟨fun failed => congrArg Except.error (Except.error.inj failed),
      fun failed => congrArg Except.error (Except.error.inj failed)⟩
  | ok pids =>
    obtain ⟨millis, cycled⟩ := cycle_of_sweep listed r
    rw [cycled]
    exact ⟨fun failed => by contradiction, fun failed => by contradiction⟩

theorem cycle_filtered (listed : e.source.pids = .ok pids) (r : Record) :
    (e.cycle r).2.counters.pidsFiltered =
      r.counters.pidsFiltered + .ofNat (pids.countP fun pid => !e.due pid) := by
  rw [← e.sweep_filtered e.source.host pids r]
  obtain ⟨millis, cycled⟩ := cycle_of_sweep listed r
  rw [cycled]
  have pruned := pruneRecord_counters (e.sweep e.source.host pids r).2 pids
  have filtered := congrArg Counters.pidsFiltered pruned
  exact filtered

section
variable (unpatterned : e.rules.procs.isEmpty = true)
include unpatterned

theorem refuses_of_no_patterns (name : String) : e.rules.procs.accepts name = false := by
  rw [Matcher.accepts, List.isEmpty_iff.mp unpatterned, List.any_nil]

/-- Without patterns there is nothing to sample. -/
theorem sweep_of_no_patterns (host : Host) (pids : List Pid) (r : Record) :
    (e.sweep host pids r).1 = [] := by
  induction pids generalizing r with
  | nil => rfl
  | cons pid rest ih =>
    have nothing : (e.visit r.registry host pid : Outcome).state? = none := by
      simp only [visit, bind_still, refuses_of_no_patterns unpatterned]
      cases e.source.status pid <;> rfl
    rw [sweep_cons, nothing]
    exact ih _

/-- Without patterns every readable process is listed. -/
theorem mem_rows_of_no_patterns {state : RunState} :
    ⟨pid, state⟩ ∈ e.rows pids ↔
      pid ∈ pids ∧ ∃ status, e.source.status pid = .ok status ∧ status.state = state := by
  constructor
  · intro member
    obtain ⟨there, status, read, shows, _⟩ := status_of_mem_rows member
    exact ⟨there, status, read, shows.symm⟩
  · rintro ⟨there, status, read, rfl⟩
    refine List.mem_filterMap.mpr ⟨pid, there, ?_⟩
    simp only [read, rowOf?, Matcher.acceptsOrEmpty, unpatterned, Bool.true_or, if_true]

theorem length_rows_of_no_patterns (pids : List Pid) :
    (e.rows pids).length = pids.countP fun pid => !e.due pid := by
  refine List.length_filterMap_eq_countP.trans (List.countP_congr fun pid _ => ?_)
  unfold due
  cases e.source.status pid with
  | error err => simp [rowOf?]
  | ok status =>
    simp [rowOf?, Matcher.acceptsOrEmpty, unpatterned, refuses_of_no_patterns unpatterned]

end

/-- Listing agrees with sampling. A list changes nothing, and it fails as a cycle does, with the
error of the enumeration. Where there are patterns and the rule selects none, the states of a cycle
are listed, in the same order and with the same run states, and of the listed processes just those
are missing from the cycle that cannot be sampled. Where there are no patterns, a cycle reports
nothing and counts every process with a readable status as filtered, and the list has all these. -/
theorem listing_agrees_with_sampling (e : Engine Id) (r : Record)
    (distinct : ∀ pids, e.source.pids = .ok pids → pids.Nodup) :
    (e.answer r .list).2 = r ∧
    (∀ err, e.listStates = .error err ↔ e.source.pids = .error err) ∧
    (∀ err, e.listStates = .error err ↔ (e.cycle r).1 = .error err) ∧
    (∀ pids, e.source.pids = .ok pids → ∃ rows, e.listStates = .ok rows ∧
      (e.rules.procs.isEmpty = false → e.rules.top.isActive = false → e.ShowsAsked →
        ∃ states, (e.cycle r).1 = .ok states ∧
          (states.map ProcState.pid).Sublist (rows.map ListEntry.pid) ∧
          (∀ s ∈ states, ∀ row ∈ rows, row.pid = s.pid → row.state = s.status.state) ∧
          ∀ row ∈ rows, row.pid ∉ states.map ProcState.pid ↔
            ∃ status, e.source.status row.pid = .ok status ∧ e.Unsampled r.registry status) ∧
      (e.rules.procs.isEmpty = true →
        (e.cycle r).1 = .ok [] ∧
        (e.cycle r).2.counters.pidsFiltered = r.counters.pidsFiltered + .ofNat rows.length ∧
        ∀ pid state, ⟨pid, state⟩ ∈ rows ↔
          pid ∈ pids ∧ ∃ status, e.source.status pid = .ok status ∧ status.state = state)) := by
  refine ⟨rfl, listStates_eq_error_iff, fun err => ?_, ?_⟩
  · rw [listStates_eq_error_iff, cycle_eq_error_iff]
  intro pids listed
  refine ⟨e.rows pids, ?_, fun patterned unselective asked => ?_, fun unpatterned => ⟨?_, ?_, ?_⟩⟩
  · rw [listStates_eq, listed]
    rfl
  · have states := cycle_states unselective asked listed (distinct pids listed) r
    refine ⟨_, states, ?_, ?_, ?_⟩
    · have whole := (states_sublist_rows asked r.registry pids).map ListEntry.pid
      rwa [List.map_map] at whole
    · intro s reported row member same
      obtain ⟨_, status, read, shows, _⟩ := status_of_mem_rows member
      obtain ⟨_, read', _⟩ := status_of_mem_states asked reported
      rw [same, read'] at read
      rw [shows, Except.ok.inj read]
    · intro row member
      obtain ⟨there, status, read, _, accepted⟩ := status_of_mem_rows member
      rw [Matcher.acceptsOrEmpty, patterned, Bool.false_or] at accepted
      rw [mem_states_iff asked]
      constructor
      · intro missing
        refine ⟨status, read, Classical.byContradiction fun sampled => missing ?_⟩
        exact ⟨there, status, read, accepted, sampled⟩
      · rintro ⟨status', read', unsampled⟩ ⟨_, status'', read'', _, sampled⟩
        obtain rfl := Except.ok.inj (read'.symm.trans read'')
        exact sampled unsampled
  · obtain ⟨millis, cycled⟩ := cycle_of_sweep listed r
    have none : e.rules.top.select [] = [] := List.sublist_nil.mp (e.rules.top.select_sublist [])
    rw [cycled, sweep_of_no_patterns unpatterned, none]
    rfl
  · rw [cycle_filtered listed, length_rows_of_no_patterns unpatterned]
  · exact fun pid state => mem_rows_of_no_patterns unpatterned

/-- Two processes, of which the second goes between its status and its sample. -/
def faltering : Engine Id :=
  let e := Crowd.engine.still ⟨[(7, 5), (9, 6)], 1⟩
  let sample (pid : Pid) : Except SampleError Sample :=
    if pid = 9 then .error (.notFound 9) else e.source.sample pid
  { e with source := { e.source with sample := sample } }

theorem faltering_listing_agrees_with_sampling :
    let e := faltering
    e.source.pids = .ok [7, 9] ∧ (∀ pids, e.source.pids = .ok pids → pids.Nodup) ∧
      e.rules.procs.isEmpty = false ∧ e.rules.top.isActive = false ∧ e.ShowsAsked ∧
      ∃ rows states, e.listStates = .ok rows ∧ (e.cycle .empty).1 = .ok states ∧
        rows = [⟨7, .running⟩, ⟨9, .running⟩] ∧ states.map ProcState.pid = [7] ∧
        ∃ status, e.source.status 9 = .ok status ∧ e.Unsampled .empty status := by
  intro e
  have listed : e.source.pids = .ok [7, 9] := rfl
  have distinct (pids : List Pid) (enumerated : e.source.pids = .ok pids) : pids.Nodup := by
    obtain rfl := Except.ok.inj (listed.symm.trans enumerated)
    decide
  have asked : e.ShowsAsked := fun _ _ read => Crowd.status_pid (Prod.ext read rfl)
  obtain ⟨_, _, _, agree⟩ := listing_agrees_with_sampling e .empty distinct
  obtain ⟨rows, shown, sampled, _⟩ := agree [7, 9] listed
  obtain ⟨states, cycled, _, _, missing⟩ := sampled rfl rfl asked
  have here : e.listStates = .ok [⟨7, .running⟩, ⟨9, .running⟩] := by
    rw [listStates_eq, listed]
    rfl
  obtain rfl := Except.ok.inj (shown.symm.trans here)
  have reported : states.map ProcState.pid = [7] := by
    have pids : (e.cycle .empty).1.toOption.map (List.map ProcState.pid) = some [7] := by
      decide +kernel
    rw [cycled] at pids
    exact Option.some.inj pids
  refine ⟨listed, distinct, rfl, rfl, asked, _, states, shown, cycled, rfl, reported, ?_⟩
  exact (missing ⟨9, .running⟩ (by decide)).mp (by rw [reported]; decide)

/-- Where a status shows another process, that one stands twice in the states of the cycle and once
in the list. -/
theorem impostors_not_listed :
    let e := (impostors fun _ => some 7).still ()
    e.source.pids = .ok [7, 8] ∧ ([7, 8] : List Pid).Nodup ∧ e.rules.procs.isEmpty = false ∧
      e.rules.top.isActive = false ∧
      ∃ rows states, e.listStates = .ok rows ∧ (e.cycle .empty).1 = .ok states ∧
        rows.map ListEntry.pid = [7, 8] ∧ states.map ProcState.pid = [7, 7] ∧
        ¬ (states.map ProcState.pid).Sublist (rows.map ListEntry.pid) := by
  intro e
  have entries : e.listStates = .ok [⟨7, .running⟩, ⟨8, .running⟩] := by
    rw [listStates_eq]
    rfl
  have pids : (e.cycle .empty).1.toOption.map (List.map ProcState.pid) = some [7, 7] := by
    decide +kernel
  cases cycled : (e.cycle .empty).1 with
  | error err =>
    rw [cycled] at pids
    contradiction
  | ok states =>
    rw [cycled] at pids
    have twice : states.map ProcState.pid = [7, 7] := Option.some.inj pids
    refine ⟨rfl, by decide, rfl, rfl, _, states, entries, rfl, rfl, twice, ?_⟩
    rw [twice]
    decide

end Engine

end ProcMeter
