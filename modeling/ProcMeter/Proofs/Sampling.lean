import ProcMeter.Proofs.Invariant
import ProcMeter.Proofs.Shares

/-! What a visit can come to, and from which answers of the sources. -/
namespace ProcMeter

/-- The state that is made of what was read. -/
def Sample.toState (sample : Sample) (status : Status) (identity : Identity) (complete : Bool)
    (network : Option NetworkCounters) (cgroup : Option CgroupInfo) : ProcState :=
  ⟨status, identity, sample.cpu, sample.memory, network, cgroup, sample.time, complete⟩

namespace Engine

variable {σ : Type} {e : Engine (StateM σ)} {v : Visit σ} {registry : Registry} {host : Host}
  {status : Status} {sample : Sample} {w w₁ w₂ : σ}

/-- The identity of the process that a status shows has to be read. -/
def NeedsIdentity (rules : Rules) (registry : Registry) (status : Status) : Prop :=
  rules.cacheIdentity = true → ∀ prev, registry.get? status.pid = some prev →
    prev.sameProcess status = true → prev.identityComplete = false

theorem cachedIdentity?_eq_none_iff {rules : Rules} {registry : Registry} {status : Status} :
    cachedIdentity? rules registry status = none ↔ NeedsIdentity rules registry status := by
  unfold cachedIdentity? NeedsIdentity
  cases rules.cacheIdentity with
  | false => simp
  | true =>
    cases registry.get? status.pid with
    | none => simp
    | some prev => cases prev.identityComplete <;> simp

theorem cachedIdentity?_eq_some_iff {rules : Rules} {registry : Registry} {status : Status}
    {identity : Identity} : cachedIdentity? rules registry status = some identity ↔
      rules.cacheIdentity = true ∧ ∃ prev, registry.get? status.pid = some prev ∧
        prev.sameProcess status = true ∧ prev.identityComplete = true ∧
        prev.identity = identity := by
  unfold cachedIdentity?
  cases rules.cacheIdentity with
  | false => simp
  | true =>
    cases registry.get? status.pid with
    | none => simp
    | some prev => simp [and_assoc]

/-- In this visit the status is read, the name matches where it has to, and then the sample is
read, which leaves the world `w`. -/
def Reads (e : Engine (StateM σ)) (v : Visit σ) (status : Status) (sample : Sample) (w : σ) :
    Prop :=
  ∃ w₁, e.source.status v.pid v.world = (.ok status, w₁) ∧
    (v.byName = true → e.rules.procs.accepts status.name = true) ∧
    e.source.sample status.pid w₁ = (.ok sample, w)

/-- The world after a visit that has an identity. -/
def afterExtras (e : Engine (StateM σ)) (pid : Pid) (w : σ) : σ :=
  (e.cgroupFor pid (e.networkFor pid w).2).2

/-- The state that a visit makes once it has an identity. -/
def stateFrom (e : Engine (StateM σ)) (registry : Registry) (host : Host) (status : Status)
    (sample : Sample) (identity : Identity) (complete : Bool) (w : σ) : ProcState :=
  let network := e.networkFor status.pid w
  let cgroup := e.cgroupFor status.pid network.2
  (sample.toState status identity complete network.1 cgroup.1).ratedAgainst
    (registry.get? status.pid) host

/-- A visit has all that it takes to make a state, and makes it. -/
def Yields (e : Engine (StateM σ)) (v : Visit σ) (s : ProcState) : Prop :=
  ∃ status sample identity complete w w₁, e.Reads v status sample w ∧
    e.identityFor v.registry status w = (.ok (identity, complete), w₁) ∧
    s = e.stateFrom v.registry v.host status sample identity complete w₁

/-- All ways in which a visit can end. -/
inductive Ending (e : Engine (StateM σ)) (v : Visit σ) : Prop where
  | unreadable {err : SampleError} {w : σ}
      (unread : e.source.status v.pid v.world = (.error err, w))
      (outcome : v.outcome = .failed err) (next : v.next = w)
  | filtered {status : Status} {w : σ} (read : e.source.status v.pid v.world = (.ok status, w))
      (refused : v.byName = true ∧ e.rules.procs.accepts status.name = false)
      (outcome : v.outcome = .filtered) (next : v.next = w)
  | unsampled {status : Status} {err : SampleError} {w₁ w₂ : σ}
      (read : e.source.status v.pid v.world = (.ok status, w₁))
      (unread : e.source.sample status.pid w₁ = (.error err, w₂))
      (outcome : v.outcome = .failed err) (next : v.next = w₂)
  | unidentified {status : Status} {sample : Sample} {err : SampleError} {w₁ w₂ : σ}
      (reads : e.Reads v status sample w₁)
      (unknown : e.identityFor v.registry status w₁ = (.error err, w₂))
      (outcome : v.outcome = .failed err) (next : v.next = w₂)
  | sampled {status : Status} {sample : Sample} {identity : Identity} {complete : Bool} {w₁ w₂ : σ}
      (reads : e.Reads v status sample w₁)
      (known : e.identityFor v.registry status w₁ = (.ok (identity, complete), w₂))
      (outcome : v.outcome =
        .sampled (e.stateFrom v.registry v.host status sample identity complete w₂))
      (next : v.next = e.afterExtras status.pid w₂)

section
variable {identity : Identity} {complete : Bool}

theorem stateFrom_status :
    (e.stateFrom registry host status sample identity complete w).status = status :=
  (ProcState.ratedAgainst_keeps _ _ _).1

theorem stateFrom_identity :
    (e.stateFrom registry host status sample identity complete w).identity = identity ∧
      (e.stateFrom registry host status sample identity complete w).identityComplete = complete :=
  ⟨(ProcState.ratedAgainst_keeps _ _ _).2.1, (ProcState.ratedAgainst_keeps _ _ _).2.2.1⟩

theorem stateFrom_time :
    (e.stateFrom registry host status sample identity complete w).sampleTime = sample.time :=
  (ProcState.ratedAgainst_keeps _ _ _).2.2.2.1

/-- A state keeps the tick counts that were read. -/
theorem stateFrom_ticks (kind : CpuKind) :
    ((e.stateFrom registry host status sample identity complete w).cpu.share kind).ticks =
      (sample.cpu.share kind).ticks :=
  (ProcState.ratedAgainst_keeps _ _ _).2.2.2.2 kind

end

theorem fill_of_sample_error {err : SampleError}
    (unread : e.source.sample status.pid w = (.error err, w₁)) :
    e.fill registry host status w = (.error err, w₁) := by
  simp only [fill, bind_apply, unread, pure_apply]

theorem fill_of_identity_error {err : SampleError}
    (read : e.source.sample status.pid w = (.ok sample, w₁))
    (unknown : e.identityFor registry status w₁ = (.error err, w₂)) :
    e.fill registry host status w = (.error err, w₂) := by
  simp only [fill, bind_apply, read, unknown, pure_apply]

theorem fill_of_identity {identity : Identity} {complete : Bool}
    (read : e.source.sample status.pid w = (.ok sample, w₁))
    (known : e.identityFor registry status w₁ = (.ok (identity, complete), w₂)) :
    e.fill registry host status w =
      (.ok (e.stateFrom registry host status sample identity complete w₂),
        e.afterExtras status.pid w₂) := by
  simp only [fill, bind_apply, read, known, pure_apply]
  rfl

theorem examine_of_status_error {err : SampleError} (byName : Bool) {pid : Pid}
    (unread : e.source.status pid w = (.error err, w₁)) :
    e.examine byName registry host pid w = (.failed err, w₁) := by
  cases byName with
  | true => simp [examine, visit, bind_apply, unread, pure_apply]
  | false => simp [examine, probe, bind_apply, unread, pure_apply, Outcome.ofResult]

theorem examine_of_refused {pid : Pid} (read : e.source.status pid w = (.ok status, w₁))
    (refused : e.rules.procs.accepts status.name = false) :
    e.examine true registry host pid w = (.filtered, w₁) := by
  simp [examine, visit, bind_apply, read, pure_apply, refused]

theorem examine_of_accepted {byName : Bool} {pid : Pid}
    (read : e.source.status pid w = (.ok status, w₁))
    (accepted : byName = true → e.rules.procs.accepts status.name = true) :
    e.examine byName registry host pid w =
      (.ofResult (e.fill registry host status w₁).1, (e.fill registry host status w₁).2) := by
  cases byName with
  | true =>
    simp only [examine, if_true, visit_step, bind_apply, read, accepted rfl]
    rfl
  | false => simp [examine, probe, bind_apply, read, pure_apply]

theorem Made.seen (made : e.Made v) :
    e.examine v.byName v.registry v.host v.pid v.world = (v.outcome, v.next) :=
  (Prod.ext (congrArg Visit.outcome made) (congrArg Visit.next made)).symm

theorem Made.of_identity_error {err : SampleError} (made : e.Made v)
    (reads : e.Reads v status sample w)
    (unknown : e.identityFor v.registry status w = (.error err, w₁)) :
    v.outcome = .failed err ∧ v.next = w₁ := by
  obtain ⟨_, read, accepted, took⟩ := reads
  have seen := made.seen
  rw [examine_of_accepted read accepted, fill_of_identity_error took unknown, Prod.mk.injEq] at seen
  exact ⟨seen.1.symm, seen.2.symm⟩

theorem Made.of_identity {identity : Identity} {complete : Bool} (made : e.Made v)
    (reads : e.Reads v status sample w)
    (known : e.identityFor v.registry status w = (.ok (identity, complete), w₁)) :
    v.outcome = .sampled (e.stateFrom v.registry v.host status sample identity complete w₁) ∧
      v.next = e.afterExtras status.pid w₁ := by
  obtain ⟨_, read, accepted, took⟩ := reads
  have seen := made.seen
  rw [examine_of_accepted read accepted, fill_of_identity took known, Prod.mk.injEq] at seen
  exact ⟨seen.1.symm, seen.2.symm⟩

theorem Made.ending (made : e.Made v) : e.Ending v := by
  have seen := made.seen
  rcases read : e.source.status v.pid v.world with ⟨err | status, w₁⟩
  · rw [examine_of_status_error v.byName read, Prod.mk.injEq] at seen
    exact .unreadable read seen.1.symm seen.2.symm
  by_cases refused : v.byName = true ∧ e.rules.procs.accepts status.name = false
  · rw [refused.1, examine_of_refused read refused.2, Prod.mk.injEq] at seen
    exact .filtered read refused seen.1.symm seen.2.symm
  have accepted : v.byName = true → e.rules.procs.accepts status.name = true := by
    simpa only [not_and, Bool.not_eq_false] using refused
  rcases took : e.source.sample status.pid w₁ with ⟨err | sample, w₂⟩
  · rw [examine_of_accepted read accepted, fill_of_sample_error took, Prod.mk.injEq] at seen
    exact .unsampled read took seen.1.symm seen.2.symm
  have reads : e.Reads v status sample w₂ := ⟨w₁, read, accepted, took⟩
  rcases known : e.identityFor v.registry status w₂ with ⟨err | ⟨identity, complete⟩, w₃⟩
  · obtain ⟨outcome, next⟩ := made.of_identity_error reads known
    exact .unidentified reads known outcome next
  · obtain ⟨outcome, next⟩ := made.of_identity reads known
    exact .sampled reads known outcome next

/-- A visit comes to a state exactly when it yields one. -/
theorem Made.outcome_eq_sampled_iff {s : ProcState} (made : e.Made v) :
    v.outcome = .sampled s ↔ e.Yields v s := by
  constructor
  · intro sampled
    cases made.ending with
    | unreadable _ outcome _ => simp [outcome] at sampled
    | filtered _ _ outcome _ => simp [outcome] at sampled
    | unsampled _ _ outcome _ => simp [outcome] at sampled
    | unidentified _ _ outcome _ => simp [outcome] at sampled
    | sampled reads known outcome _ =>
      rw [outcome, Outcome.sampled.injEq] at sampled
      exact ⟨_, _, _, _, _, _, reads, known, sampled.symm⟩
  · rintro ⟨status, sample, identity, complete, w, w₁, reads, known, rfl⟩
    exact (made.of_identity reads known).1

end Engine

end ProcMeter
