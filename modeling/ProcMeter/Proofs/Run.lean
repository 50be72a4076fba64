import ProcMeter.Proofs.Selection

/-! Runs of an engine, call after call, and the visits to processes that they consist of. The
sources are answered by a world of any kind: every question may change it, and between two calls
it may turn into any other world. What a call keeps and reports is determined by its visits. -/
namespace ProcMeter

/-- What an engine is called for. -/
inductive Call where
  | cycle
  | one (pid : Pid)
  | list
  deriving DecidableEq

/-- What a call answers. -/
inductive Reply where
  | cycle (states : Except CycleError (List ProcState))
  | one (state : Except SampleError ProcState)
  | list (entries : Except CycleError (List ListEntry))

/-- The states that an answer reports. -/
def Reply.states : Reply → List ProcState
  | .cycle (.ok states) => states
  | .one (.ok state) => [state]
  | _ => []

/-- A call, and the world in which it is made. -/
structure Turn (σ : Type) where
  call : Call
  world : σ

def Engine.Outcome.ofResult : Except SampleError ProcState → Engine.Outcome
  | .ok s => .sampled s
  | .error err => .failed err

def Engine.Outcome.state? : Engine.Outcome → Option ProcState
  | .sampled s => some s
  | _ => none

theorem Engine.Outcome.state?_eq_some_iff {outcome : Engine.Outcome} {s : ProcState} :
    outcome.state? = some s ↔ outcome = .sampled s := by
  cases outcome <;> simp [state?]

/-- One process looked at, with all that the look depends on and what came of it. -/
structure Visit (σ : Type) where
  /-- Only a process with a matching name is sampled. -/
  byName : Bool
  registry : Registry
  host : Host
  pid : Pid
  world : σ
  outcome : Engine.Outcome
  /-- The world afterwards. -/
  next : σ

/-- The states into which visits sampled their processes. -/
def sampledStates {σ : Type} (visits : List (Visit σ)) : List ProcState :=
  visits.filterMap fun v => v.outcome.state?

/-- The registry after an outcome for a process that was asked for by `pid`. -/
def Registry.settle (registry : Registry) (pid : Pid) : Engine.Outcome → Registry
  | .sampled s => registry.set s.pid s
  | .filtered => registry
  | .failed err => if err.isGone then registry.remove pid else registry

def Visit.settled {σ : Type} (v : Visit σ) : Registry := v.registry.settle v.pid v.outcome

theorem Visit.settled_of_kept {σ : Type} {v : Visit σ} (kept : v.outcome = .filtered ∨
    ∃ err, v.outcome = .failed err ∧ err.isGone = false) : v.settled = v.registry := by
  obtain filtered | ⟨err, failed, present⟩ := kept
  · simp only [Visit.settled, filtered, Registry.settle]
  · simp only [Visit.settled, failed, Registry.settle, present, Bool.false_eq_true, if_false]

/-- A visit either replaces an entry or leaves it, unless it finds the process gone. -/
theorem Visit.settled_get?_iff {σ : Type} {v : Visit σ} {p : Pid} {s : ProcState} :
    v.settled.get? p = some s ↔
      v.outcome = .sampled s ∧ s.pid = p ∨
      v.registry.get? p = some s ∧ (∀ s', v.outcome = .sampled s' → s'.pid ≠ p) ∧
        ∀ err, v.outcome = .failed err → err.isGone = true → v.pid ≠ p := by
  cases outcome : v.outcome with
  | sampled s' =>
    simp only [Visit.settled, outcome, Registry.settle, Registry.get?_set]
    by_cases same : s'.pid = p
    · simp only [same, if_true, Option.some.injEq, Engine.Outcome.sampled.injEq]
      grind
    · simp only [same, if_false, Engine.Outcome.sampled.injEq]
      grind
  | filtered => simp [Visit.settled, outcome, Registry.settle]
  | failed err =>
    simp only [Visit.settled, outcome, Registry.settle]
    split
    · simp only [Registry.get?_remove]
      split <;> simp_all
    · simp_all

/-- The registry after visits, from first to last. -/
def Registry.settleAll {σ : Type} (registry : Registry) (visits : List (Visit σ)) : Registry :=
  visits.foldl (fun registry v => registry.settle v.pid v.outcome) registry

@[simp]
theorem Registry.settleAll_nil {σ : Type} (registry : Registry) :
    registry.settleAll ([] : List (Visit σ)) = registry := rfl

@[simp]
theorem Registry.settleAll_cons {σ : Type} (registry : Registry) (v : Visit σ)
    (rest : List (Visit σ)) :
    registry.settleAll (v :: rest) = (registry.settle v.pid v.outcome).settleAll rest := rfl

theorem Registry.settleAll_append {σ : Type} (registry : Registry) (before later : List (Visit σ)) :
    registry.settleAll (before ++ later) = (registry.settleAll before).settleAll later :=
  List.foldl_append

namespace Engine

section
variable {m : Type → Type} [Monad m]

def answer (e : Engine m) (r : Record) : Call → m (Reply × Record)
  | .cycle => do
    let (states, r) ← e.cycle r
    return (.cycle states, r)
  | .one pid => do
    let (state, r) ← e.sampleOne r pid
    return (.one state, r)
  | .list => do return (.list (← e.listStates), r)

/-- Samples a process, either if its name matches or in any case. -/
def examine (e : Engine m) (byName : Bool) (registry : Registry) (host : Host) (pid : Pid) :
    m Outcome :=
  if byName then e.visit registry host pid
  else return .ofResult (← e.probe registry host pid)

theorem visit_step (e : Engine m) (registry : Registry) (host : Host) (pid : Pid) :
    e.visit registry host pid = do
      match ← e.source.status pid with
      | .error err => return .failed err
      | .ok status =>
        if e.rules.procs.accepts status.name then
          return .ofResult (← e.fill registry host status)
        else return .filtered := by
  unfold visit
  congr
  funext answer
  cases answer with
  | error err => rfl
  | ok status =>
    dsimp only
    split
    · congr
      funext result
      cases result with
      | ok s => rfl
      | error err => rfl
    · rfl

theorem sweep_step (e : Engine m) (host : Host) (pid : Pid) (pids : List Pid) (r : Record) :
    e.sweep host (pid :: pids) r = do
      let outcome ← e.visit r.registry host pid
      let rest ← e.sweep host pids (note r pid outcome)
      return (outcome.state?.toList ++ rest.1, rest.2) := by
  rw [sweep]
  congr
  funext outcome
  cases outcome with
  | sampled s => rfl
  | filtered => rfl
  | failed err => rfl

theorem sampleOne_step (e : Engine m) (r : Record) (pid : Pid) :
    e.sampleOne r pid = do
      let host ← e.source.host
      let result ← e.probe r.registry host pid
      return (result.map (shown e.rules),
        { r with registry := r.registry.settle pid (.ofResult result) }) := by
  unfold sampleOne
  congr
  funext host
  congr
  funext result
  cases result with
  | ok s => rfl
  | error err =>
    cases gone : err.isGone with
    | true => simp only [Outcome.ofResult, Registry.settle, gone, if_true]; rfl
    | false => simp [Outcome.ofResult, Registry.settle, gone]; rfl

/-- What a list shows of a process. -/
def rowOf? (rules : Rules) (pid : Pid) : Except SampleError Status → Option ListEntry
  | .ok status => if rules.procs.acceptsOrEmpty status.name then some ⟨pid, status.state⟩ else none
  | .error _ => none

theorem listed_step (e : Engine m) (pid : Pid) (pids : List Pid) :
    e.listed (pid :: pids) = do
      let status ← e.source.status pid
      let entries ← e.listed pids
      return ((rowOf? e.rules pid status).toList ++ entries) := by
  rw [listed]
  congr
  funext answer
  cases answer with
  | error err => rfl
  | ok status =>
    cases accepted : e.rules.procs.acceptsOrEmpty status.name with
    | true => simp only [rowOf?, accepted, if_true]; rfl
    | false => simp [rowOf?, accepted]

end

variable {σ : Type}

def reply (e : Engine (StateM σ)) (r : Record) (t : Turn σ) : Reply :=
  (e.answer r t.call t.world).1.1

/-- The record after a call. -/
def after (e : Engine (StateM σ)) (r : Record) (t : Turn σ) : Record :=
  (e.answer r t.call t.world).1.2

def runFrom (e : Engine (StateM σ)) (r : Record) (turns : List (Turn σ)) : Record :=
  turns.foldl e.after r

/-- The record after the calls of a new engine. -/
def run (e : Engine (StateM σ)) (turns : List (Turn σ)) : Record := e.runFrom .empty turns

def look (e : Engine (StateM σ)) (byName : Bool) (registry : Registry) (host : Host) (pid : Pid)
    (w : σ) : Visit σ :=
  let seen := e.examine byName registry host pid w
  ⟨byName, registry, host, pid, w, seen.1, seen.2⟩

/-- Visits to processes one after another. -/
def sweepVisits (e : Engine (StateM σ)) (host : Host) :
    List Pid → Registry → σ → List (Visit σ)
  | [], _, _ => []
  | pid :: pids, registry, w =>
    let v := e.look true registry host pid w
    v :: e.sweepVisits host pids v.settled v.next

/-- The enumeration of a cycle, with the world after it. -/
def enumeration (e : Engine (StateM σ)) (w : σ) : Except CycleError (List Pid) × σ :=
  e.source.pids (e.stopwatch w).2

/-- The ids that a call enumerates, when it is a cycle and gets that far. -/
def enumerated? (e : Engine (StateM σ)) (t : Turn σ) : Option (List Pid) :=
  match t.call with
  | .cycle => (e.enumeration t.world).1.toOption
  | _ => none

/-- The visits of a call, in the order in which they are made. -/
def visits (e : Engine (StateM σ)) (r : Record) (t : Turn σ) : List (Visit σ) :=
  match t.call with
  | .cycle =>
    match e.enumeration t.world with
    | (.error _, _) => []
    | (.ok pids, w) =>
      let host := e.source.host w
      e.sweepVisits host.1 pids r.registry host.2
  | .one pid =>
    let host := e.source.host t.world
    [e.look false r.registry host.1 pid host.2]
  | .list => []

/-- All visits of a run of calls, in the order in which they are made. -/
def historyFrom (e : Engine (StateM σ)) : Record → List (Turn σ) → List (Visit σ)
  | _, [] => []
  | r, t :: turns => e.visits r t ++ e.historyFrom (e.after r t) turns

def history (e : Engine (StateM σ)) (turns : List (Turn σ)) : List (Visit σ) :=
  e.historyFrom .empty turns

/-- The record after the outcomes of visits, from first to last. -/
def noteAll (r : Record) (visits : List (Visit σ)) : Record :=
  visits.foldl (fun r v => note r v.pid v.outcome) r

/-- The world after visits that are made one after another. -/
def worldAfter (w : σ) (visits : List (Visit σ)) : σ := visits.foldl (fun _ v => v.next) w

/-- The states that a cycle reports after its visits. -/
def reported (rules : Rules) (visits : List (Visit σ)) : List ProcState :=
  (rules.top.select (sampledStates visits)).map (shown rules)

section
variable {α β : Type}

theorem bind_apply (x : StateM σ α) (f : α → StateM σ β) (w : σ) :
    (x >>= f) w = f (x w).1 (x w).2 := rfl

theorem pure_apply (a : α) (w : σ) : (pure a : StateM σ α) w = (a, w) := rfl

end

variable {e : Engine (StateM σ)}

theorem note_registry (r : Record) (pid : Pid) (outcome : Outcome) :
    (note r pid outcome).registry = r.registry.settle pid outcome := by
  cases outcome with
  | sampled s => rfl
  | filtered => rfl
  | failed err => rfl

theorem noteAll_registry (r : Record) (visits : List (Visit σ)) :
    (noteAll r visits).registry = r.registry.settleAll visits := by
  induction visits generalizing r with
  | nil => rfl
  | cons v rest ih =>
    rw [Registry.settleAll_cons, ← note_registry]
    exact ih (note r v.pid v.outcome)

theorem look_by_name (registry : Registry) (host : Host) (pid : Pid) (w : σ) :
    e.look true registry host pid w =
      ⟨true, registry, host, pid, w, (e.visit registry host pid w).1,
        (e.visit registry host pid w).2⟩ := rfl

theorem look_by_id (registry : Registry) (host : Host) (pid : Pid) (w : σ) :
    e.look false registry host pid w =
      ⟨false, registry, host, pid, w, .ofResult (e.probe registry host pid w).1,
        (e.probe registry host pid w).2⟩ := rfl

theorem sweep_fst (host : Host) (pids : List Pid) (r : Record) (w : σ) :
    (e.sweep host pids r w).1 =
      (sampledStates (e.sweepVisits host pids r.registry w),
        noteAll r (e.sweepVisits host pids r.registry w)) := by
  induction pids generalizing r w with
  | nil => rfl
  | cons pid pids ih =>
    have tail := ih (note r pid (e.visit r.registry host pid w).1) (e.visit r.registry host pid w).2
    rw [note_registry] at tail
    simp only [sweep, bind_apply, tail, sweepVisits, look_by_name, Visit.settled, sampledStates,
      List.filterMap_cons, noteAll, List.foldl_cons]
    cases (e.visit r.registry host pid w).1 with
    | sampled s => rfl
    | filtered => rfl
    | failed err => rfl

theorem cycle_of_error {err : CycleError} {w w₁ : σ} (failed : e.enumeration w = (.error err, w₁))
    (r : Record) :
    e.cycle r w = ((.error err, { r with counters := r.counters.recordFailure }), w₁) := by
  simp only [enumeration] at failed
  simp only [cycle, bind_apply, failed, pure_apply]

theorem sweep_snd (host : Host) (pids : List Pid) (r : Record) (w : σ) :
    (e.sweep host pids r w).2 = worldAfter w (e.sweepVisits host pids r.registry w) := by
  induction pids generalizing r w with
  | nil => rfl
  | cons pid pids ih =>
    have tail := ih (note r pid (e.visit r.registry host pid w).1) (e.visit r.registry host pid w).2
    rw [note_registry] at tail
    refine Eq.trans ?_ tail
    simp only [sweep, bind_apply]
    cases (e.visit r.registry host pid w).1 with
    | sampled s => rfl
    | filtered => rfl
    | failed err => rfl

theorem cycle_fst_of_ok {pids : List Pid} {w w₁ : σ} (listed : e.enumeration w = (.ok pids, w₁))
    (r : Record) :
    let host := e.source.host w₁
    let visits := e.sweepVisits host.1 pids r.registry host.2
    let kept := pruneRecord (noteAll r visits) pids
    let millis := (e.stopwatch (worldAfter host.2 visits)).1 - (e.stopwatch w).1
    (e.cycle r w).1 = (.ok (reported e.rules visits),
      { kept with counters :=
        kept.counters.recordCycle (.ofNat (reported e.rules visits).length) millis }) := by
  intro host visits kept millis
  have swept := e.sweep_fst host.1 pids r host.2
  have left := e.sweep_snd host.1 pids r host.2
  simp only [enumeration] at listed
  simp only [cycle, bind_apply, listed, host, swept, left, pure_apply]
  rfl

theorem cycle_of_ok {pids : List Pid} {w w₁ : σ} (listed : e.enumeration w = (.ok pids, w₁))
    (r : Record) :
    let visits := e.sweepVisits (e.source.host w₁).1 pids r.registry (e.source.host w₁).2
    let kept := pruneRecord (noteAll r visits) pids
    ∃ millis, (e.cycle r w).1 = (.ok (reported e.rules visits),
      { kept with counters :=
        kept.counters.recordCycle (.ofNat (reported e.rules visits).length) millis }) := by
  intro visits kept
  exact ⟨_, cycle_fst_of_ok listed r⟩

theorem sampleOne_fst (r : Record) (pid : Pid) (w : σ) :
    let result := (e.probe r.registry (e.source.host w).1 pid (e.source.host w).2).1
    (e.sampleOne r pid w).1 = (result.map (shown e.rules),
      { r with registry := r.registry.settle pid (.ofResult result) }) := by
  rw [sampleOne_step]
  rfl

theorem enumerated?_eq_some_iff {t : Turn σ} {pids : List Pid} :
    e.enumerated? t = some pids ↔ t.call = .cycle ∧ (e.enumeration t.world).1 = .ok pids := by
  unfold enumerated?
  split
  · cases listed : (e.enumeration t.world).1 <;> simp_all [Except.toOption]
  · simp_all

theorem after_registry (r : Record) (t : Turn σ) :
    (e.after r t).registry =
      match e.enumerated? t with
      | some pids => (r.registry.settleAll (e.visits r t)).prune pids
      | none => r.registry.settleAll (e.visits r t) := by
  obtain ⟨call, w⟩ := t
  cases call with
  | cycle =>
    rcases listed : e.enumeration w with ⟨err | pids, w₁⟩
    · simp only [after, answer, bind_apply, cycle_of_error listed, enumerated?, visits, listed]
      rfl
    · obtain ⟨millis, cycled⟩ := e.cycle_of_ok listed r
      simp only [after, answer, bind_apply, enumerated?, visits, listed, pure_apply, cycled,
        pruneRecord, noteAll_registry]
      rfl
  | one pid =>
    simp only [after, answer, bind_apply, pure_apply, sampleOne_fst, enumerated?, visits,
      look_by_id, Registry.settleAll_cons, Registry.settleAll_nil]
  | list => rfl

theorem reported_nil (rules : Rules) : reported rules ([] : List (Visit σ)) = [] := by
  unfold reported TopRule.select
  split <;> rfl

theorem reply_states (r : Record) (t : Turn σ) :
    (e.reply r t).states =
      match t.call with
      | .cycle => reported e.rules (e.visits r t)
      | .one _ => (sampledStates (e.visits r t)).map (shown e.rules)
      | .list => [] := by
  obtain ⟨call, w⟩ := t
  cases call with
  | cycle =>
    rcases listed : e.enumeration w with ⟨err | pids, w₁⟩
    · simp only [reply, answer, bind_apply, cycle_of_error listed, visits, listed, reported_nil]
      rfl
    · obtain ⟨millis, cycled⟩ := e.cycle_of_ok listed r
      simp only [reply, answer, bind_apply, cycled, visits, listed, pure_apply, Reply.states]
  | one pid =>
    simp only [reply, answer, bind_apply, pure_apply, sampleOne_fst, visits, look_by_id,
      sampledStates, List.filterMap_cons, List.filterMap_nil]
    cases (e.probe r.registry (e.source.host w).1 pid (e.source.host w).2).1 with
    | ok s => rfl
    | error err => rfl
  | list =>
    rcases listed : e.source.pids w with ⟨err | pids, w₁⟩
    · simp [reply, answer, bind_apply, pure_apply, listStates, listed, Reply.states]
    · simp [reply, answer, bind_apply, pure_apply, listStates, listed, Reply.states]

/-- What a call reports is what its visits have sampled, but for ticks that are left out. -/
theorem mem_reply_states {r : Record} {t : Turn σ} {x : ProcState}
    (reports : x ∈ (e.reply r t).states) :
    ∃ v ∈ e.visits r t, ∃ s, v.outcome = .sampled s ∧ x = shown e.rules s := by
  have fromStates : x ∈ (sampledStates (e.visits r t)).map (shown e.rules) := by
    rw [reply_states] at reports
    split at reports
    · exact List.map_subset _ (e.rules.top.select_sublist _).subset reports
    · exact reports
    · contradiction
  obtain ⟨s, member, rfl⟩ := List.mem_map.mp fromStates
  obtain ⟨v, visited, sampled⟩ := List.mem_filterMap.mp member
  refine ⟨v, visited, s, ?_, rfl⟩
  cases outcome : v.outcome <;> simp_all [Outcome.state?]

end Engine

/-- The least world there is something to sample in: a host that runs one process or none, with
the ticks of that process and the second it is. -/
abbrev Solo := Option (UInt64 × Int)

namespace Solo

def running (ticks : UInt64) (second : Int) : Solo := some (ticks, second)

def source : Source (StateM Solo) where
  pids w := (.ok (if w.isSome then [7] else []), w)
  status pid w :=
    if w.isSome ∧ pid = 7 then (.ok ⟨7, some 1, none, "worker", .running, some 500⟩, w)
    else (.error (.notFound pid), w)
  sample pid w :=
    match w with
    | some (ticks, second) =>
      (.ok ⟨⟨.ofTicks ticks, .ofTicks 0, .ofTicks ticks, none⟩, ⟨none, ⟨some 4096, none⟩, none⟩,
        ⟨second, 0⟩⟩, w)
    | none => (.error (.notFound pid), w)
  identity _ w := (.ok ⟨some "root", none, ["worker"], some "worker", none⟩, w)
  host w := (⟨some 1000000, 4⟩, w)

/-- Samples every process once it is there, and leaves the ticks out of what it reports. -/
def engine : Engine (StateM Solo) where
  rules := ⟨⟨[fun _ => true]⟩, ⟨[]⟩, none, true, false, .off⟩
  source := source
  network := none
  cgroups := none
  stopwatch w := (0.0, w)

end Solo

end ProcMeter
