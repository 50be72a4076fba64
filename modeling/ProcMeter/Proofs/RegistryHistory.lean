import ProcMeter.Proofs.Locality
import ProcMeter.Proofs.Sampling

/-! The registry as history: after every run it holds, for each process, the state into which it
was last sampled, unless a cycle has since gone by without it or a call has found it gone. -/
namespace ProcMeter

namespace Engine

variable {σ : Type} {e : Engine (StateM σ)} {r : Record} {t : Turn σ} {v : Visit σ}
  {registry : Registry} {visits : List (Visit σ)} {p : Pid} {s : ProcState}

/-- Sources that answer for the process they are asked about, and list no process twice. -/
structure Sound (e : Engine (StateM σ)) : Prop where
  status_pid : ∀ {pid : Pid} {w w₁ : σ} {status : Status},
    e.source.status pid w = (.ok status, w₁) → status.pid = pid
  pids_nodup : ∀ {w w₁ : σ} {pids : List Pid}, e.source.pids w = (.ok pids, w₁) → pids.Nodup

/-- A call samples a process into a state. -/
def Samples (e : Engine (StateM σ)) (r : Record) (t : Turn σ) (p : Pid) (s : ProcState) : Prop :=
  ∃ v ∈ e.visits r t, v.pid = p ∧ e.Yields v s

/-- A call fails on a process that is no longer there. -/
def FindsGone (e : Engine (StateM σ)) (r : Record) (t : Turn σ) (p : Pid) : Prop :=
  ∃ v ∈ e.visits r t, v.pid = p ∧ ∃ err, v.outcome = .failed err ∧ err.isGone = true

/-- A cycle enumerates the processes, and this one is not among them. -/
def Misses (e : Engine (StateM σ)) (t : Turn σ) (p : Pid) : Prop :=
  ∃ pids, e.enumerated? t = some pids ∧ p ∉ pids

/-- A call neither samples a process nor drops it. -/
def Spares (e : Engine (StateM σ)) (r : Record) (t : Turn σ) (p : Pid) : Prop :=
  (∀ s, ¬ e.Samples r t p s) ∧ ¬ e.FindsGone r t p ∧ ¬ e.Misses t p

theorem Made.sampled_asked (made : e.Made v)
    (asked : ∀ {w w₁ : σ} {status : Status},
      e.source.status v.pid w = (.ok status, w₁) → status.pid = v.pid)
    (sampled : v.outcome = .sampled s) : s.pid = v.pid := by
  obtain ⟨status, sample, identity, complete, w, w₁, ⟨_, read, _⟩, _, rfl⟩ :=
    made.outcome_eq_sampled_iff.mp sampled
  exact (congrArg Status.pid stateFrom_status).trans (asked read)

theorem Made.sampled_pid (made : e.Made v) (sound : e.Sound) (sampled : v.outcome = .sampled s) :
    s.pid = v.pid :=
  made.sampled_asked sound.status_pid sampled

/-- A visit concerns the entry of its own process only. -/
theorem Made.settle_get?_other (made : e.Made v) (sound : e.Sound) (other : v.pid ≠ p) :
    (registry.settle v.pid v.outcome).get? p = registry.get? p :=
  Registry.settle_get?_other (fun _ sampled => made.sampled_pid sound sampled) other

theorem Chained.settleAll_get?_other (chained : e.Chained registry visits) (sound : e.Sound)
    (other : ∀ v ∈ visits, v.pid ≠ p) : (registry.settleAll visits).get? p = registry.get? p := by
  induction visits generalizing registry with
  | nil => rfl
  | cons v rest ih =>
    obtain ⟨made, rfl, tail⟩ := chained
    rw [Registry.settleAll_cons]
    exact (ih tail fun u member => other u (List.mem_cons_of_mem _ member)).trans
      (made.settle_get?_other sound (other v List.mem_cons_self))

theorem visits_nodup (sound : e.Sound) (r : Record) (t : Turn σ) :
    ((e.visits r t).map Visit.pid).Nodup := by
  cases listed : e.enumerated? t with
  | some pids =>
    rw [visits_pids listed]
    obtain ⟨_, read⟩ := enumerated?_eq_some_iff.mp listed
    exact sound.pids_nodup (Prod.ext read rfl)
  | none =>
    obtain ⟨call, w⟩ := t
    cases call with
    | cycle =>
      rcases answer : e.enumeration w with ⟨err | pids, w₁⟩
      · simp [visits, answer]
      · simp [enumerated?, answer, Except.toOption] at listed
    | one pid => simp [visits]
    | list => simp [visits]

/-- When a process is visited, its entry is still the one from before the call. -/
theorem visit_registry_get? (sound : e.Sound) (member : v ∈ e.visits r t) :
    v.registry.get? v.pid = r.registry.get? v.pid := by
  obtain ⟨before, later, split⟩ := List.append_of_mem member
  have chained := e.visits_chained r t
  have distinct := visits_nodup sound r t
  rw [split] at chained distinct
  obtain ⟨front, _, found, _⟩ := chained.split
  rw [found]
  apply front.settleAll_get?_other sound
  intro u earlier same
  simp only [List.map_append, List.map_cons, List.nodup_append] at distinct
  exact distinct.2.2 u.pid (List.mem_map_of_mem earlier) v.pid List.mem_cons_self same

/-- A visit decides about the entry of its process for the whole call. -/
theorem after_get?_visited (sound : e.Sound) (member : v ∈ e.visits r t) :
    (e.after r t).registry.get? v.pid = v.settled.get? v.pid := by
  have settled : (r.registry.settleAll (e.visits r t)).get? v.pid = v.settled.get? v.pid := by
    obtain ⟨before, later, split⟩ := List.append_of_mem member
    have chained := e.visits_chained r t
    have distinct := visits_nodup sound r t
    rw [split] at chained distinct ⊢
    obtain ⟨_, _, found, tail⟩ := chained.split
    rw [Registry.settleAll_append, ← found, Registry.settleAll_cons]
    apply tail.settleAll_get?_other sound
    intro u after same
    simp only [List.map_append, List.map_cons, List.nodup_append, List.nodup_cons] at distinct
    exact distinct.2.1.1 (same ▸ List.mem_map_of_mem after)
  rw [after_registry]
  cases listed : e.enumerated? t with
  | none => exact settled
  | some pids =>
    have alive : v.pid ∈ pids := visits_pids listed r ▸ List.mem_map_of_mem member
    simp only [Registry.get?_prune, if_pos alive, settled]

theorem after_get?_missed (missed : e.Misses t p) : (e.after r t).registry.get? p = none := by
  obtain ⟨pids, listed, absent⟩ := missed
  simp only [after_registry, listed, Registry.get?_prune, if_neg absent]

theorem after_get?_unvisited (sound : e.Sound) (unvisited : ∀ v ∈ e.visits r t, v.pid ≠ p)
    (present : ¬ e.Misses t p) : (e.after r t).registry.get? p = r.registry.get? p := by
  have settled := (e.visits_chained r t).settleAll_get?_other sound unvisited
  rw [after_registry]
  cases listed : e.enumerated? t with
  | none => exact settled
  | some pids =>
    have alive : p ∈ pids := by
      by_contra absent
      exact present ⟨pids, listed, absent⟩
    simp only [Registry.get?_prune, if_pos alive, settled]

theorem after_get?_sampled (sound : e.Sound) (samples : e.Samples r t p s) :
    (e.after r t).registry.get? p = some s := by
  obtain ⟨v, member, rfl, yields⟩ := samples
  have made := (e.visits_chained r t).made member
  have sampled := made.outcome_eq_sampled_iff.mpr yields
  have same := made.sampled_pid sound sampled
  rw [after_get?_visited sound member, Visit.settled, sampled]
  simp only [Registry.settle, Registry.get?_set, same, if_true]

theorem after_get?_gone (sound : e.Sound) (gone : e.FindsGone r t p) :
    (e.after r t).registry.get? p = none := by
  obtain ⟨v, member, rfl, err, failed, isGone⟩ := gone
  rw [after_get?_visited sound member, Visit.settled, failed]
  simp only [Registry.settle, isGone, if_true, Registry.get?_remove]

theorem after_get?_kept (sound : e.Sound) (member : v ∈ e.visits r t)
    (kept : v.outcome = .filtered ∨ ∃ err, v.outcome = .failed err ∧ err.isGone = false) :
    (e.after r t).registry.get? v.pid = r.registry.get? v.pid := by
  rw [after_get?_visited sound member, Visit.settled_of_kept kept,
    visit_registry_get? sound member]

theorem after_get?_spared (sound : e.Sound) (spared : e.Spares r t p) :
    (e.after r t).registry.get? p = r.registry.get? p := by
  obtain ⟨unsampled, present, listed⟩ := spared
  by_cases unvisited : ∀ v ∈ e.visits r t, v.pid ≠ p
  · exact after_get?_unvisited sound unvisited listed
  simp only [not_forall, not_not] at unvisited
  obtain ⟨v, member, rfl⟩ := unvisited
  apply after_get?_kept sound member
  cases outcome : v.outcome with
  | sampled s =>
    have yields := ((e.visits_chained r t).made member).outcome_eq_sampled_iff.mp outcome
    exact absurd ⟨v, member, rfl, yields⟩ (unsampled s)
  | filtered => exact .inl rfl
  | failed err =>
    refine .inr ⟨err, rfl, ?_⟩
    by_contra isGone
    exact present ⟨v, member, rfl, err, outcome, by simpa using isGone⟩

/-- Some call of a run has sampled a process into a state, and no later call has sampled it
again or dropped it. -/
def Stands (e : Engine (StateM σ)) (turns : List (Turn σ)) (p : Pid) (s : ProcState) : Prop :=
  ∃ before t later, turns = before ++ t :: later ∧ e.Samples (e.run before) t p s ∧
    ∀ mid u rest, later = mid ++ u :: rest → e.Spares (e.run (before ++ t :: mid)) u p

/-- One call either samples the process anew or leaves what was there. -/
theorem after_get?_iff (sound : e.Sound) :
    (e.after r t).registry.get? p = some s ↔
      e.Samples r t p s ∨ r.registry.get? p = some s ∧ e.Spares r t p := by
  constructor
  · intro found
    by_cases samples : ∃ s', e.Samples r t p s'
    · obtain ⟨s', samples⟩ := samples
      rw [after_get?_sampled sound samples, Option.some.injEq] at found
      exact .inl (found ▸ samples)
    have spares : e.Spares r t p := by
      refine ⟨fun s' sampled => samples ⟨s', sampled⟩, fun gone => ?_, fun missed => ?_⟩
      · rw [after_get?_gone sound gone] at found
        contradiction
      · rw [after_get?_missed missed] at found
        contradiction
    exact .inr ⟨after_get?_spared sound spares ▸ found, spares⟩
  · rintro (samples | ⟨found, spares⟩)
    · exact after_get?_sampled sound samples
    · exact (after_get?_spared sound spares).trans found

theorem stands_concat {turns : List (Turn σ)} :
    e.Stands (turns ++ [t]) p s ↔
      e.Samples (e.run turns) t p s ∨ e.Stands turns p s ∧ e.Spares (e.run turns) t p := by
  constructor
  · rintro ⟨before, u, later, split, samples, spared⟩
    obtain ⟨rfl, rfl, _⟩ | ⟨later, rfl, rfl⟩ := concat_eq_split_iff.mp split
    · exact .inl samples
    · refine .inr ⟨⟨before, u, later, rfl, samples, fun mid w rest inside => ?_⟩,
        spared later t [] rfl⟩
      exact spared mid w (rest ++ [t]) (by simp [inside])
  · rintro (samples | ⟨⟨before, u, later, rfl, samples, spared⟩, spares⟩)
    · exact ⟨turns, t, [], rfl, samples, by simp⟩
    · refine ⟨before, u, later ++ [t], by simp, samples, fun mid w rest inside => ?_⟩
      obtain ⟨rfl, rfl, _⟩ | ⟨rest, rfl, rfl⟩ := concat_eq_split_iff.mp inside
      · exact spares
      · exact spared mid w rest rfl

/-- After every run, the registry holds what stands. -/
theorem run_get?_iff (sound : e.Sound) (turns : List (Turn σ)) :
    (e.run turns).registry.get? p = some s ↔ e.Stands turns p s := by
  induction turns using List.reverseRecOn generalizing s with
  | nil =>
    constructor
    · intro found
      exact absurd found (by simp [run, runFrom, Record.empty, Registry.get?_empty])
    · rintro ⟨before, t, later, split, _⟩
      simp at split
  | append_singleton turns t ih =>
    rw [run_concat, after_get?_iff sound, ih, stands_concat]

theorem after_registry_of_cycle_error {err : CycleError}
    (failed : e.reply r t = .cycle (.error err)) : (e.after r t).registry = r.registry := by
  obtain ⟨call, w⟩ := t
  cases call with
  | cycle =>
    rcases listed : e.enumeration w with ⟨err | pids, w₁⟩
    · simp only [after, answer, bind_apply, cycle_of_error listed, pure_apply]
    · obtain ⟨millis, cycled⟩ := e.cycle_of_ok listed r
      simp [reply, answer, bind_apply, cycled, pure_apply] at failed
  | one pid => simp [reply, answer, bind_apply, pure_apply] at failed
  | list => rfl

theorem enumerated?_of_cycle_ok {states : List ProcState}
    (cycled : e.reply r t = .cycle (.ok states)) : ∃ pids, e.enumerated? t = some pids := by
  obtain ⟨call, w⟩ := t
  cases call with
  | cycle =>
    rcases listed : e.enumeration w with ⟨err | pids, w₁⟩
    · simp [reply, answer, bind_apply, cycle_of_error listed, pure_apply] at cycled
    · exact ⟨pids, enumerated?_eq_some_iff.mpr ⟨rfl, congrArg Prod.fst listed⟩⟩
  | one pid => simp [reply, answer, bind_apply, pure_apply] at cycled
  | list => simp [reply, answer, bind_apply, pure_apply] at cycled

theorem mem_enumerated_of_entry {pids : List Pid} (listed : e.enumerated? t = some pids)
    (found : (e.after r t).registry.get? p = some s) : p ∈ pids := by
  by_contra absent
  rw [after_get?_missed ⟨pids, listed, absent⟩] at found
  contradiction

/-- A process that a cycle has missed stays out of the registry until it is sampled again. -/
theorem run_get?_of_missed (sound : e.Sound) (before later : List (Turn σ)) (missed : e.Misses t p)
    (unsampled : ∀ mid u rest, later = mid ++ u :: rest →
      ∀ s, ¬ e.Samples (e.run (before ++ t :: mid)) u p s) :
    (e.run (before ++ t :: later)).registry.get? p = none := by
  induction later using List.reverseRecOn with
  | nil =>
    rw [run_concat]
    exact after_get?_missed missed
  | append_singleton later u ih =>
    have absent := ih fun mid w rest inside => unsampled mid w (rest ++ [u]) (by simp [inside])
    rw [← List.cons_append, ← List.append_assoc, run_concat]
    cases found : (e.after (e.run (before ++ t :: later)) u).registry.get? p with
    | none => rfl
    | some s =>
      rw [after_get?_iff sound, absent] at found
      obtain samples | ⟨present, _⟩ := found
      · exact absurd samples (unsampled later u [] rfl s)
      · contradiction

/-- A state that is made without an earlier one has the counters as they were read. -/
theorem Yields.of_first (yields : e.Yields v s) (first : v.registry.get? v.pid = none)
    (same : s.pid = v.pid) :
    ∃ status sample w, e.Reads v status sample w ∧ s.cpu = sample.cpu ∧
      s.memory = sample.memory := by
  obtain ⟨status, sample, identity, complete, w, w₁, reads, _, rfl⟩ := yields
  have absent : v.registry.get? status.pid = none := by
    rw [← first, ← same, ProcState.pid, stateFrom_status]
  refine ⟨status, sample, w, reads, ?_⟩
  simp only [stateFrom, absent]
  exact ⟨rfl, rfl⟩

theorem Yields.ticks (yields : e.Yields v s) :
    ∃ status sample w, e.Reads v status sample w ∧
      ∀ kind, (s.cpu.share kind).ticks = (sample.cpu.share kind).ticks := by
  obtain ⟨status, sample, identity, complete, w, w₁, reads, _, rfl⟩ := yields
  exact ⟨status, sample, w, reads, stateFrom_ticks⟩

/-- The registry is determined by history. It holds the state into which a process was last
sampled, with the ticks that were read, as long as no later cycle has missed the process and no
later call has found it gone. Failed cycles and listings leave the registry alone, failures of
another kind and filtered names leave the entry alone. After a cycle only enumerated processes
have entries, and a process that comes back after a cycle has missed it is seen for the first
time. -/
theorem registry_follows_history (e : Engine (StateM σ)) (sound : e.Sound)
    (turns : List (Turn σ)) :
    (∀ p s, (e.run turns).registry.get? p = some s ↔ e.Stands turns p s) ∧
    (∀ before t p s, e.Samples (e.run before) t p s → ∃ v ∈ e.visits (e.run before) t,
      v.pid = p ∧ ∃ status sample w, e.Reads v status sample w ∧
        ∀ kind, (s.cpu.share kind).ticks = (sample.cpu.share kind).ticks) ∧
    (∀ t err, e.reply (e.run turns) t = .cycle (.error err) →
      (e.after (e.run turns) t).registry = (e.run turns).registry) ∧
    (∀ w, (e.after (e.run turns) ⟨.list, w⟩).registry = (e.run turns).registry) ∧
    (∀ t, ∀ v ∈ e.visits (e.run turns) t,
      (v.outcome = .filtered ∨ ∃ err, v.outcome = .failed err ∧ err.isGone = false) →
        (e.after (e.run turns) t).registry.get? v.pid = (e.run turns).registry.get? v.pid) ∧
    (∀ t states, e.reply (e.run turns) t = .cycle (.ok states) →
      ∃ pids, e.enumerated? t = some pids ∧
        ∀ p s, (e.after (e.run turns) t).registry.get? p = some s → p ∈ pids) ∧
    (∀ before t later p, turns = before ++ t :: later → e.Misses t p →
      (∀ mid u rest, later = mid ++ u :: rest →
        ∀ s, ¬ e.Samples (e.run (before ++ t :: mid)) u p s) →
      ∀ u, ∀ v ∈ e.visits (e.run turns) u, v.pid = p →
        v.registry.get? p = none ∧ ∀ s, e.Yields v s → ∃ status sample w,
          e.Reads v status sample w ∧ s.cpu = sample.cpu ∧ s.memory = sample.memory) := by
  refine ⟨fun p s => run_get?_iff sound turns, ?_, fun t err => after_registry_of_cycle_error,
    fun w => rfl, fun t v member => after_get?_kept sound member, ?_, ?_⟩
  · rintro before t p s ⟨v, member, same, yields⟩
    exact ⟨v, member, same, yields.ticks⟩
  · intro t states cycled
    obtain ⟨pids, listed⟩ := enumerated?_of_cycle_ok cycled
    exact ⟨pids, listed, fun p s => mem_enumerated_of_entry listed⟩
  · rintro before t later p rfl missed unsampled u v member rfl
    have first : v.registry.get? v.pid = none :=
      (visit_registry_get? sound member).trans
        (run_get?_of_missed sound before later missed unsampled)
    refine ⟨first, fun s yields => yields.of_first first ?_⟩
    have made := (e.visits_chained _ u).made member
    exact made.sampled_pid sound (made.outcome_eq_sampled_iff.mpr yields)

theorem solo_sound : Solo.engine.Sound where
  status_pid := by
    intro pid w w₁ status read
    simp only [Solo.engine, Solo.source] at read
    split at read
    · rename_i there
      obtain rfl := Except.ok.inj (congrArg Prod.fst read)
      exact there.2.symm
    · exact absurd (congrArg Prod.fst read) (by simp)
  pids_nodup := by
    intro w w₁ pids listed
    obtain rfl := Except.ok.inj (congrArg Prod.fst listed)
    split <;> simp

/-- A process is sampled, missed by a cycle and sampled again. -/
theorem solo_registry_follows_history :
    Solo.engine.Sound ∧
      (∀ s, ¬ Solo.engine.Stands [⟨.cycle, .running 5 1⟩, ⟨.cycle, none⟩] 7 s) ∧
      ∃ s, Solo.engine.Stands [⟨.cycle, .running 5 1⟩, ⟨.cycle, none⟩, ⟨.one 7, .running 9 2⟩] 7 s ∧
        s.cpu.user.ticks = some 9 := by
  refine ⟨solo_sound, fun s stands => ?_, ?_⟩
  · have found := ((registry_follows_history Solo.engine solo_sound _).1 7 s).mpr stands
    have missed : ((Solo.engine.run [⟨.cycle, .running 5 1⟩, ⟨.cycle, none⟩]).registry.get?
        7).isSome = false := by decide +kernel
    simp [found] at missed
  · have ticks : ((Solo.engine.run [⟨.cycle, .running 5 1⟩, ⟨.cycle, none⟩,
        ⟨.one 7, .running 9 2⟩]).registry.get? 7).map (fun s => s.cpu.user.ticks) =
          some (some 9) := by decide +kernel
    obtain ⟨s, found, ticks⟩ := Option.map_eq_some_iff.mp ticks
    exact ⟨s, ((registry_follows_history Solo.engine solo_sound _).1 7 s).mp found, ticks⟩

end Engine

end ProcMeter
