import ProcMeter.Proofs.Watching

/-! With the cache on, the identity of a process is read once. The cache is the registry itself, so
what an entry says of its identity has to agree with the reads of the past: it is complete just when
the identity of that process has been read, and the process has had an entry at all times since. -/
namespace ProcMeter

/-- What tells one process from all others: the id, the name and the time of the start. -/
abbrev ProcessKey := Pid × String × Option UInt64

def Status.process (s : Status) : ProcessKey := (s.pid, s.name, s.startTicks)

theorem ProcState.sameProcess_iff_process {s : ProcState} {status : Status}
    (here : s.status.startTicks.isSome = true) (there : status.startTicks.isSome = true) :
    s.sameProcess status = true ↔ s.status.process = status.process := by
  obtain ⟨a, here⟩ := Option.isSome_iff_exists.mp here
  obtain ⟨b, there⟩ := Option.isSome_iff_exists.mp there
  simp [sameProcess_iff, Status.process, here, there]

/-- The registry has an entry of the process. -/
def Registry.Keeps (registry : Registry) (who : ProcessKey) : Prop :=
  ∃ s, registry.get? who.1 = some s ∧ s.status.process = who

namespace Engine

variable {σ : Type} {e : Engine (StateM σ)} {v : Visit (Watched σ)} {registry kept : Registry}
  {earlier : List (Visit (Watched σ))} {who : ProcessKey} {identity : Identity} {status : Status}
  {s : ProcState}

/-- The identity of a process is read in a visit. -/
def ReadsIdentity (e : Engine (StateM σ)) (v : Visit (Watched σ)) (who : ProcessKey)
    (identity : Identity) : Prop :=
  ∃ status sample w, e.watched.Reads v status sample w ∧ status.process = who ∧
    v.reads = [⟨status.pid, .ok identity⟩]

/-- The identity of a process was read in an earlier visit, and from then on every visit has found
an entry of the process, as there is now. -/
def ReadBefore (e : Engine (StateM σ)) (earlier : List (Visit (Watched σ))) (registry : Registry)
    (who : ProcessKey) (identity : Identity) : Prop :=
  ∃ before u later, earlier = before ++ u :: later ∧ e.ReadsIdentity u who identity ∧
    (∀ x ∈ later, x.registry.Keeps who) ∧ registry.Keeps who

/-- What an entry says of its identity is what the visits before have read. -/
structure Remembers (e : Engine (StateM σ)) (earlier : List (Visit (Watched σ)))
    (registry : Registry) (s : ProcState) : Prop where
  started : s.status.startTicks.isSome = true
  complete : s.identityComplete = true → ∃ identity,
    e.ReadBefore earlier registry s.status.process identity ∧
      s.identity = identity.restrictEnv e.rules.envWhitelist
  incomplete : s.identityComplete = false →
    ∀ identity, ¬ e.ReadBefore earlier registry s.status.process identity

/-- Where the identity of a state comes from. -/
inductive Provenance (e : Engine (StateM σ)) (earlier : List (Visit (Watched σ)))
    (v : Visit (Watched σ)) (s : ProcState) : Prop where
  | kept (identity : Identity)
      (known : e.ReadBefore earlier v.registry s.status.process identity) (silent : v.reads = [])
      (holds : s.identity = identity.restrictEnv e.rules.envWhitelist)
  | read (identity : Identity) (asked : v.reads = [⟨s.pid, .ok identity⟩])
      (holds : s.identity = identity.restrictEnv e.rules.envWhitelist)
  | blank (err : SampleError) (asked : v.reads = [⟨s.pid, .error err⟩])
      (present : err.isGone = false) (holds : s.identity = .blank)

theorem ReadBefore.move (known : e.ReadBefore earlier registry who identity)
    (keeps : kept.Keeps who) : e.ReadBefore earlier kept who identity := by
  obtain ⟨before, u, later, split, reads, unbroken, _⟩ := known
  exact ⟨before, u, later, split, reads, unbroken, keeps⟩

theorem readBefore_concat :
    e.ReadBefore (earlier ++ [v]) registry who identity ↔
      registry.Keeps who ∧
        (e.ReadsIdentity v who identity ∨ e.ReadBefore earlier v.registry who identity) := by
  constructor
  · rintro ⟨before, u, later, split, reads, unbroken, keeps⟩
    refine ⟨keeps, ?_⟩
    obtain ⟨rfl, rfl, _⟩ | ⟨later, rfl, rfl⟩ := concat_eq_split_iff.mp split
    · exact .inl reads
    · exact .inr ⟨before, u, later, rfl, reads,
        fun x member => unbroken x (List.mem_append_left _ member), unbroken v (by simp)⟩
  · rintro ⟨keeps, reads | ⟨before, u, later, rfl, reads, unbroken, found⟩⟩
    · exact ⟨earlier, v, [], rfl, reads, by simp, keeps⟩
    · refine ⟨before, u, later ++ [v], by simp, reads, fun x member => ?_, keeps⟩
      obtain inside | last := List.mem_append.mp member
      · exact unbroken x inside
      · rwa [List.mem_singleton.mp last]

/-- A visit that reads the identity of a process stores the process. -/
theorem Made.outcome_of_readsIdentity (made : e.watched.Made v)
    (reads : e.ReadsIdentity v who identity) :
    ∃ s, v.outcome = .sampled s ∧ s.status.process = who := by
  obtain ⟨status, sample, w, read, rfl, answered⟩ := reads
  obtain ⟨result, asked, identifies, asks, ends⟩ := made.identifies read
  rw [answered] at asks
  cases identifies with
  | known _ => simp at asks
  | answered _ _ =>
    obtain ⟨s, outcome, shows, _⟩ := ends
    exact ⟨s, outcome, congrArg Status.process shows⟩
  | refused _ _ => simp at asks
  | gone _ _ => simp at asks

/-- A registry that has the same entry has the same to say of it. -/
theorem Remembers.move (remembers : e.Remembers earlier registry s)
    (here : registry.get? s.pid = some s) (there : kept.get? s.pid = some s) :
    e.Remembers earlier kept s := by
  refine ⟨remembers.started, fun complete => ?_, fun incomplete identity known => ?_⟩
  · obtain ⟨identity, known, same⟩ := remembers.complete complete
    exact ⟨identity, known.move ⟨s, there, rfl⟩, same⟩
  · exact remembers.incomplete incomplete identity (known.move ⟨s, here, rfl⟩)

/-- A visit that leaves an entry has not read the identity of its process. -/
theorem Remembers.visited (remembers : e.Remembers earlier v.registry s) (made : e.watched.Made v)
    (unsampled : ∀ s', v.outcome = .sampled s' → s'.pid ≠ s.pid)
    (found : v.settled.get? s.pid = some s) : e.Remembers (earlier ++ [v]) v.settled s := by
  refine ⟨remembers.started, fun complete => ?_, fun incomplete identity known => ?_⟩
  · obtain ⟨identity, known, same⟩ := remembers.complete complete
    exact ⟨identity, readBefore_concat.mpr ⟨⟨s, found, rfl⟩, .inr known⟩, same⟩
  · obtain ⟨_, reads | known⟩ := readBefore_concat.mp known
    · -- A read in this visit would have replaced the entry.
      obtain ⟨s', sampled, shows⟩ := made.outcome_of_readsIdentity reads
      exact unsampled s' sampled (congrArg Prod.fst shows)
    · exact remembers.incomplete incomplete identity known

section
variable (caches : e.rules.cacheIdentity = true) (there : status.startTicks.isSome = true)
  (holds : ∀ p s, registry.get? p = some s → e.Remembers earlier registry s)
include caches there holds

/-- What the cache gives has been read before. -/
theorem readBefore_of_known
    (known : cachedIdentity? e.rules registry status = some identity) :
    ∃ read, e.ReadBefore earlier registry status.process read ∧
      identity = read.restrictEnv e.rules.envWhitelist := by
  simp only [cachedIdentity?, caches, if_true] at known
  split at known
  · rename_i prev found
    split at known
    · rename_i usable
      obtain rfl := Option.some.inj known
      rw [Bool.and_eq_true] at usable
      have remembers := holds _ prev found
      have same := (ProcState.sameProcess_iff_process remembers.started there).mp usable.1
      exact same ▸ remembers.complete usable.2
    · contradiction
  · contradiction

/-- What the cache does not give has not been read before. -/
theorem not_readBefore_of_unknown (unknown : cachedIdentity? e.rules registry status = none)
    (identity : Identity) : ¬ e.ReadBefore earlier registry status.process identity := by
  intro known
  obtain ⟨_, _, _, _, _, _, prev, found, same⟩ := id known
  have found : registry.get? status.pid = some prev := found
  have remembers := holds _ prev found
  have shows := (ProcState.sameProcess_iff_process remembers.started there).mpr same
  cases complete : prev.identityComplete with
  | true => simp [cachedIdentity?, caches, found, shows, complete] at unknown
  | false => exact remembers.incomplete complete identity (same ▸ known)

end

/-- Statuses tell the time of the start. -/
def ReadsStart (e : Engine (StateM σ)) : Prop :=
  ∀ {pid : Pid} {w w₁ : σ} {status : Status},
    e.source.status pid w = (.ok status, w₁) → status.startTicks.isSome = true

theorem Reads.started {sample : Sample} {w : Watched σ} (starts : e.ReadsStart)
    (reads : e.watched.Reads v status sample w) : status.startTicks.isSome = true := by
  obtain ⟨w₁, read, _, _⟩ := reads
  have answered : (e.source.status v.pid v.world.1).1 = .ok status := congrArg Prod.fst read
  exact starts (Prod.ext answered rfl)

section
variable (caches : e.rules.cacheIdentity = true) (starts : e.ReadsStart)
include caches starts

theorem Made.provenance (made : e.watched.Made v)
    (holds : ∀ p s, v.registry.get? p = some s → e.Remembers earlier v.registry s)
    (sampled : v.outcome = .sampled s) : e.Provenance earlier v s := by
  obtain ⟨sample, w, _, _, _, reads, identifies, asks, found, _⟩ :=
    made.identifies_of_sampled sampled
  cases identifies with
  | known known =>
    obtain ⟨identity, before, same⟩ :=
      readBefore_of_known caches (reads.started starts) holds known
    exact .kept identity before asks (found.trans same)
  | answered _ identity => exact .read identity asks found
  | refused _ present => exact .blank _ asks present found

/-- The entry that a visit stores says of its identity what has been read. -/
theorem Made.remembers (made : e.watched.Made v)
    (holds : ∀ p s, v.registry.get? p = some s → e.Remembers earlier v.registry s)
    (sampled : v.outcome = .sampled s) : e.Remembers (earlier ++ [v]) v.settled s := by
  have keeps : v.settled.Keeps s.status.process :=
    ⟨s, Visit.settled_get?_iff.mpr (.inl ⟨sampled, rfl⟩), rfl⟩
  obtain ⟨sample, w, _, _, _, reads, identifies, asks, found, flag⟩ :=
    made.identifies_of_sampled sampled
  have started := reads.started starts
  refine ⟨started, fun complete => ?_, fun incomplete identity known => ?_⟩
  · cases identifies with
    | known known =>
      obtain ⟨identity, before, same⟩ := readBefore_of_known caches started holds known
      exact ⟨identity, readBefore_concat.mpr ⟨keeps, .inr before⟩, found.trans same⟩
    | answered _ identity =>
      exact ⟨identity, readBefore_concat.mpr ⟨keeps, .inl ⟨_, _, _, reads, rfl, asks⟩⟩, found⟩
    | refused _ _ => simp [flag] at complete
  · cases identifies with
    | known _ => simp [flag] at incomplete
    | answered _ _ => simp [flag] at incomplete
    | refused unknown _ =>
      obtain ⟨_, ⟨_, _, _, _, _, answered⟩ | before⟩ := readBefore_concat.mp known
      · rw [answered] at asks
        simp at asks
      · exact not_readBefore_of_unknown caches started holds unknown identity before

theorem remembers_invariant : e.watched.Invariant fun earlier registry =>
    ∀ p s, registry.get? p = some s → s.pid = p ∧ e.Remembers earlier registry s where
  start := by
    intro p s found
    rw [Registry.get?_empty] at found
    contradiction
  visited := by
    intro before v made holds p s found
    obtain ⟨sampled, same⟩ | ⟨old, unsampled, _⟩ := Visit.settled_get?_iff.mp found
    · exact ⟨same, made.remembers caches starts (fun p s found => (holds p s found).2) sampled⟩
    · obtain ⟨rfl, remembers⟩ := holds p s old
      exact ⟨rfl, remembers.visited made unsampled found⟩
  pruned := by
    intro before registry alive holds p s found
    rw [Registry.get?_prune] at found
    split at found
    · rename_i listed
      obtain ⟨rfl, remembers⟩ := holds p s found
      have stays : (registry.prune alive).get? s.pid = some s := by
        rw [Registry.get?_prune, if_pos listed, found]
      exact ⟨rfl, remembers.move found stays⟩
    · contradiction

/-- A visit that gets so far reads the identity just when it has not been read before. -/
theorem Made.reads_or_readBefore {sample : Sample} {w : Watched σ} (made : e.watched.Made v)
    (holds : ∀ p s, v.registry.get? p = some s → e.Remembers earlier v.registry s)
    (reads : e.watched.Reads v status sample w) :
    (v.reads = [] ∧ ∃ identity, e.ReadBefore earlier v.registry status.process identity) ∨
      (∃ answer, v.reads = [⟨status.pid, answer⟩]) ∧
        ∀ identity, ¬ e.ReadBefore earlier v.registry status.process identity := by
  have started := reads.started starts
  obtain ⟨result, asked, identifies, asks, _⟩ := made.identifies reads
  cases identifies with
  | known known =>
    obtain ⟨identity, before, _⟩ := readBefore_of_known caches started holds known
    exact .inl ⟨asks, identity, before⟩
  | answered unknown _ =>
    exact .inr ⟨⟨_, asks⟩, not_readBefore_of_unknown caches started holds unknown⟩
  | refused unknown _ =>
    exact .inr ⟨⟨_, asks⟩, not_readBefore_of_unknown caches started holds unknown⟩
  | gone unknown _ =>
    exact .inr ⟨⟨_, asks⟩, not_readBefore_of_unknown caches started holds unknown⟩

end

theorem Provenance.shown (provenance : e.Provenance earlier v s) (rules : Rules) :
    e.Provenance earlier v (shown rules s) := by
  unfold Engine.shown
  split
  · exact provenance
  · cases provenance with
    | kept identity known silent holds => exact .kept identity known silent holds
    | read identity asked holds => exact .read identity asked holds
    | blank err asked present holds => exact .blank err asked present holds

/-- An incomplete identity comes of a visit that was refused it. -/
theorem Made.refused (made : e.watched.Made v) (sampled : v.outcome = .sampled s)
    (incomplete : s.identityComplete = false) :
    s.identity = .blank ∧ ∃ err, v.reads = [⟨s.pid, .error err⟩] ∧ err.isGone = false := by
  obtain ⟨_, _, _, _, _, _, identifies, asks, found, flag⟩ := made.identifies_of_sampled sampled
  cases identifies with
  | known _ => simp [flag] at incomplete
  | answered _ _ => simp [flag] at incomplete
  | refused _ present => exact ⟨found, _, asks, present⟩

/-- The identity of a process is read once. Watching the reads changes nothing of what an engine
does. A visit that has read a sample asks for the identity, just once, if and only if it has not
been read before; no other visit asks. The identity in a state is what was read of the same process,
either in the visit that made the state or in an earlier one since which the registry has had the
process without a break; it is blank only in a state whose own visit was refused it. -/
theorem identity_read_once (e : Engine (StateM σ)) (caches : e.rules.cacheIdentity = true)
    (starts : e.ReadsStart) (turns : List (Turn (Watched σ))) :
    (∀ r t, e.watched.reply r t = e.reply r (t.inWorld t.world.1) ∧
      e.watched.after r t = e.after r (t.inWorld t.world.1)) ∧
    (∀ t before v later, e.watched.visits (e.watched.run turns) t = before ++ v :: later →
      (∀ status sample w, e.watched.Reads v status sample w →
        ((∃ answer, v.reads = [⟨status.pid, answer⟩]) ↔ ¬ ∃ identity,
          e.ReadBefore (e.watched.history turns ++ before) v.registry status.process identity) ∧
        (v.reads = [] ↔ ∃ identity,
          e.ReadBefore (e.watched.history turns ++ before) v.registry status.process identity)) ∧
      ((∀ status sample w, ¬ e.watched.Reads v status sample w) → v.reads = [])) ∧
    (∀ t, ∀ x ∈ (e.watched.reply (e.watched.run turns) t).states,
      ∃ before v later, e.watched.visits (e.watched.run turns) t = before ++ v :: later ∧
        ∃ s, v.outcome = .sampled s ∧ x = shown e.rules s ∧
          e.Provenance (e.watched.history turns ++ before) v x) ∧
    (∀ p s, (e.watched.run turns).registry.get? p = some s →
      (∃ identity, s.identity = identity.restrictEnv e.rules.envWhitelist ∧
        e.ReadBefore (e.watched.history turns) (e.watched.run turns).registry s.status.process
          identity) ∨
      s.identity = .blank ∧ ∃ v ∈ e.watched.history turns, v.outcome = .sampled s ∧
        ∃ err, v.reads = [⟨p, .error err⟩] ∧ err.isGone = false) := by
  have inv := remembers_invariant caches starts
  have madeOf {t before v later}
      (split : e.watched.visits (e.watched.run turns) t = before ++ v :: later) :
      e.watched.Made v :=
    (e.watched.visits_chained (e.watched.run turns) t).made (by simp [split])
  refine ⟨e.watched_call, fun t before v later split => ⟨?_, (madeOf split).silent⟩, ?_, ?_⟩
  · intro status sample w reads
    have holds := inv.before_visit split
    obtain ⟨silent, known⟩ | ⟨⟨answer, asked⟩, unknown⟩ :=
      (madeOf split).reads_or_readBefore caches starts (fun p s found => (holds p s found).2) reads
    · simp [silent, known]
    · simp [asked, unknown]
  · intro t x reports
    obtain ⟨v, member, s, sampled, rfl⟩ := mem_reply_states reports
    obtain ⟨before, later, split⟩ := List.append_of_mem member
    have holds := inv.before_visit split
    refine ⟨before, v, later, split, s, sampled, rfl, ?_⟩
    exact ((madeOf split).provenance caches starts (fun p s found => (holds p s found).2)
      sampled).shown e.rules
  · intro p s found
    obtain ⟨rfl, remembers⟩ := inv.run turns p s found
    cases complete : s.identityComplete with
    | true =>
      obtain ⟨identity, known, same⟩ := remembers.complete complete
      exact .inl ⟨identity, same, known⟩
    | false =>
      obtain ⟨front, t, rest, split, v, member, sampled, _⟩ := run_get?_sampled found
      have made := (e.watched.visits_chained (e.watched.run front) t).made member
      obtain ⟨blank, refused⟩ := made.refused sampled complete
      exact .inr ⟨blank, v, mem_history_iff.mpr ⟨front, t, rest, split, member⟩, sampled, refused⟩

theorem solo_reads_start : Solo.engine.ReadsStart := by
  intro pid w w₁ status read
  simp only [Solo.engine, Solo.source] at read
  split at read
  · obtain rfl := Except.ok.inj (congrArg Prod.fst read)
    rfl
  · have clash := congrArg Prod.fst read
    contradiction

/-- In the second cycle the identity is known from the first. -/
theorem solo_identity_read_once :
    Solo.engine.rules.cacheIdentity = true ∧ Solo.engine.ReadsStart ∧
      ∃ s identity,
        (Solo.engine.watched.run
          [⟨.cycle, .running 5 1, []⟩, ⟨.cycle, .running 9 2, []⟩]).registry.get? 7 = some s ∧
        s.identity = identity.restrictEnv Solo.engine.rules.envWhitelist ∧
        Solo.engine.ReadBefore
          (Solo.engine.watched.history [⟨.cycle, .running 5 1, []⟩, ⟨.cycle, .running 9 2, []⟩])
          (Solo.engine.watched.run
            [⟨.cycle, .running 5 1, []⟩, ⟨.cycle, .running 9 2, []⟩]).registry
          s.status.process identity := by
  refine ⟨rfl, solo_reads_start, ?_⟩
  have named : ((Solo.engine.watched.run [⟨.cycle, .running 5 1, []⟩,
      ⟨.cycle, .running 9 2, []⟩]).registry.get? 7).map (fun s => s.identity.cmdline) =
        some (some "worker") := by decide +kernel
  obtain ⟨s, found, named⟩ := Option.map_eq_some_iff.mp named
  obtain ⟨identity, same, known⟩ | ⟨blank, _⟩ :=
    (identity_read_once Solo.engine rfl solo_reads_start _).2.2.2 7 s found
  · exact ⟨s, identity, found, same, known⟩
  · simp [blank, Identity.blank] at named

end Engine

end ProcMeter
