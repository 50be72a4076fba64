import ProcMeter.Proofs.Sampling
import ProcMeter.Proofs.Simulation

/-! Any engine can be watched: whenever it reads an identity, the question and the answer are
written down beside the world. It does nothing else than the engine that is not watched. -/
namespace ProcMeter

/-- An identity that was asked for, and the answer. -/
structure IdentityRead where
  pid : Pid
  answer : Except SampleError Identity

/-- A world, and the identities that were read in it. -/
abbrev Watched (σ : Type) := σ × List IdentityRead

/-- A question that is not written down. -/
def aside {σ α : Type} (x : StateM σ α) : StateM (Watched σ) α := fun w =>
  let seen := x w.1
  (seen.1, seen.2, w.2)

/-- The identities that were read in a visit. -/
def Visit.reads {σ : Type} (v : Visit (Watched σ)) : List IdentityRead :=
  v.next.2.drop v.world.2.length

section
variable {σ α β : Type}

theorem aside_log {x : StateM σ α} {a : α} {w w₁ : Watched σ} (seen : aside x w = (a, w₁)) :
    w₁.2 = w.2 :=
  congrArg (fun seen => seen.2.2) seen.symm

theorem aside_bind (x : StateM σ α) (f : α → StateM σ β) :
    (aside x >>= fun a => aside (f a)) = aside (x >>= f) := rfl

theorem aside_alike (x : StateM σ α) : Alike (fun w w' => w.1 = w') (aside x) x := by
  rintro w _ rfl
  exact ⟨rfl, rfl⟩

theorem Visit.reads_of_next {v : Visit (Watched σ)} {reads : List IdentityRead}
    (grown : v.next.2 = v.world.2 ++ reads) : v.reads = reads := by
  rw [Visit.reads, grown, List.drop_left]

end

namespace Engine

variable {σ : Type}

/-- The engine with its reads of identities written down. -/
def watched (e : Engine (StateM σ)) : Engine (StateM (Watched σ)) where
  rules := e.rules
  source :=
    { pids := aside e.source.pids
      status := fun pid => aside (e.source.status pid)
      sample := fun pid => aside (e.source.sample pid)
      identity := fun pid w =>
        let seen := e.source.identity pid w.1
        (seen.1, seen.2, w.2 ++ [⟨pid, seen.1⟩])
      host := aside e.source.host }
  network := e.network.map fun source pid => aside (source pid)
  cgroups := e.cgroups.map fun source pid => aside (source pid)
  stopwatch := aside e.stopwatch

theorem watched_networkFor (e : Engine (StateM σ)) (pid : Pid) :
    e.watched.networkFor pid = aside (e.networkFor pid) := by
  unfold networkFor watched
  cases e.network with
  | none => rfl
  | some source =>
    simp only [Option.map_some, ← aside_bind]
    congr 1
    funext answer
    cases answer with
    | error err => rfl
    | ok counters => cases e.rules.networkMetrics <;> rfl

theorem watched_cgroupFor (e : Engine (StateM σ)) (pid : Pid) :
    e.watched.cgroupFor pid = aside (e.cgroupFor pid) := by
  unfold cgroupFor watched
  cases e.cgroups with
  | none => rfl
  | some source =>
    simp only [Option.map_some, ← aside_bind]
    congr 1
    funext answer
    cases answer <;> rfl

theorem watched_mirrors (e : Engine (StateM σ)) : e.watched.Mirrors (fun w w' => w.1 = w') e where
  rules := rfl
  pids := aside_alike _
  status _ := aside_alike _
  sample _ := aside_alike _
  identity _ := by
    rintro w _ rfl
    exact ⟨rfl, rfl⟩
  host := aside_alike _
  network pid := e.watched_networkFor pid ▸ aside_alike _
  cgroup pid := e.watched_cgroupFor pid ▸ aside_alike _
  stopwatch := aside_alike _

/-- The watched engine replies and keeps what the engine does that is not watched. -/
theorem watched_call (e : Engine (StateM σ)) (r : Record) (t : Turn (Watched σ)) :
    e.watched.reply r t = e.reply r (t.inWorld t.world.1) ∧
      e.watched.after r t = e.after r (t.inWorld t.world.1) :=
  e.watched_mirrors.call rfl r

theorem afterExtras_log (e : Engine (StateM σ)) (pid : Pid) (w : Watched σ) :
    (e.watched.afterExtras pid w).2 = w.2 := by
  rw [afterExtras, watched_networkFor, watched_cgroupFor]
  rfl

end Engine

theorem Identity.blank_restrictEnv (whitelist : Matcher) :
    Identity.blank.restrictEnv whitelist = .blank := by
  unfold Identity.restrictEnv
  split <;> rfl

namespace Engine

variable {σ : Type} {e : Engine (StateM σ)} {v : Visit (Watched σ)} {status : Status}
  {sample : Sample} {w : Watched σ} {s : ProcState}

/-- What comes of looking for an identity, and what is read for it. -/
inductive Identifies (e : Engine (StateM σ)) (registry : Registry) (status : Status) :
    Except SampleError (Identity × Bool) → List IdentityRead → Prop where
  | known {identity : Identity} (known : cachedIdentity? e.rules registry status = some identity) :
      e.Identifies registry status (.ok (identity, true)) []
  | answered (unknown : cachedIdentity? e.rules registry status = none) (identity : Identity) :
      e.Identifies registry status (.ok (identity.restrictEnv e.rules.envWhitelist, true))
        [⟨status.pid, .ok identity⟩]
  | refused (unknown : cachedIdentity? e.rules registry status = none) {err : SampleError}
      (present : err.isGone = false) :
      e.Identifies registry status (.ok (.blank, false)) [⟨status.pid, .error err⟩]
  | gone (unknown : cachedIdentity? e.rules registry status = none) {err : SampleError}
      (gone : err.isGone = true) :
      e.Identifies registry status (.error err) [⟨status.pid, .error err⟩]

theorem watched_identityFor (e : Engine (StateM σ)) (registry : Registry) (status : Status)
    (w : Watched σ) :
    ∃ reads, e.Identifies registry status (e.watched.identityFor registry status w).1 reads ∧
      (e.watched.identityFor registry status w).2.2 = w.2 ++ reads := by
  have same : e.watched.rules = e.rules := rfl
  cases cached : cachedIdentity? e.rules registry status with
  | some identity =>
    simp only [identityFor, same, cached, pure_apply]
    exact ⟨[], .known cached, (List.append_nil _).symm⟩
  | none =>
    simp only [identityFor, same, cached, readIdentity, bind_apply, Identity.blank_restrictEnv]
    refine ⟨[⟨status.pid, (e.source.identity status.pid w.1).1⟩], ?_⟩
    simp only [watched]
    cases (e.source.identity status.pid w.1).1 with
    | ok identity => exact ⟨.answered cached identity, rfl⟩
    | error err =>
      cases present : err.isGone with
      | true =>
        simp only [present, if_true]
        exact ⟨.gone cached present, rfl⟩
      | false =>
        simp only [present, Bool.false_eq_true, if_false]
        exact ⟨.refused cached present, rfl⟩

theorem Reads.log (reads : e.watched.Reads v status sample w) :
    w.2 = v.world.2 := by
  obtain ⟨w₁, read, _, took⟩ := reads
  rw [aside_log took, aside_log read]

/-- A visit that does not get as far as a sample reads no identity. -/
theorem Made.silent (made : e.watched.Made v)
    (unread : ∀ status sample w, ¬ e.watched.Reads v status sample w) : v.reads = [] := by
  apply Visit.reads_of_next
  rw [List.append_nil]
  cases made.ending with
  | unreadable failed _ next => rw [next, aside_log failed]
  | filtered read _ _ next => rw [next, aside_log read]
  | unsampled read failed _ next => rw [next, aside_log failed, aside_log read]
  | unidentified reads _ _ _ => exact absurd reads (unread _ _ _)
  | sampled reads _ _ _ => exact absurd reads (unread _ _ _)

/-- A visit that has read a sample looks for an identity next, and ends accordingly. -/
theorem Made.identifies (made : e.watched.Made v) (reads : e.watched.Reads v status sample w) :
    ∃ result asked, e.Identifies v.registry status result asked ∧ v.reads = asked ∧
      match result with
      | .error err => v.outcome = .failed err
      | .ok (identity, complete) => ∃ s, v.outcome = .sampled s ∧ s.status = status ∧
          s.identity = identity ∧ s.identityComplete = complete := by
  obtain ⟨asked, identifies, grown⟩ := e.watched_identityFor v.registry status w
  refine ⟨_, asked, identifies, ?_⟩
  rcases found : e.watched.identityFor v.registry status w with ⟨err | ⟨identity, complete⟩, w₁⟩
  · obtain ⟨outcome, next⟩ := made.of_identity_error reads found
    rw [found] at grown
    refine ⟨?_, outcome⟩
    apply Visit.reads_of_next
    rw [next, grown, reads.log]
  · obtain ⟨outcome, next⟩ := made.of_identity reads found
    rw [found] at grown
    refine ⟨?_, _, outcome, stateFrom_status, stateFrom_identity⟩
    apply Visit.reads_of_next
    rw [next, afterExtras_log, grown, reads.log]

theorem Made.identifies_of_sampled (made : e.watched.Made v) (sampled : v.outcome = .sampled s) :
    ∃ sample w identity complete asked, e.watched.Reads v s.status sample w ∧
      e.Identifies v.registry s.status (.ok (identity, complete)) asked ∧ v.reads = asked ∧
      s.identity = identity ∧ s.identityComplete = complete := by
  obtain ⟨status, sample, _, _, w, _, reads, _⟩ := made.outcome_eq_sampled_iff.mp sampled
  obtain ⟨result, asked, identifies, asks, ends⟩ := made.identifies reads
  cases result with
  | error err => simp [sampled] at ends
  | ok found =>
    obtain ⟨_, outcome, rfl, holds⟩ := ends
    obtain rfl := Outcome.sampled.inj (sampled.symm.trans outcome)
    exact ⟨sample, w, found.1, found.2, asked, reads, identifies, asks, holds⟩

end Engine

end ProcMeter
