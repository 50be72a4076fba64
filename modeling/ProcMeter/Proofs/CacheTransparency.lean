import ProcMeter.Proofs.IdentityCache

/-! The cache of identities is transparent. Suppose that identities can always be read, and depend
on nothing but the process. Then an engine that caches them and one that does not report, keep and
count the same. For the cache could show in the identities alone, and in either engine these are
always the ones that would be read. -/
namespace ProcMeter

/-- The rules with the cache of identities on or off. -/
def Rules.caching (rules : Rules) (caches : Bool) : Rules := { rules with cacheIdentity := caches }

section
variable {whitelist : Matcher} {who : ProcessKey → Identity} {s : ProcState}

/-- A state with the identity that `who` gives for its process. -/
def ProcState.identified (whitelist : Matcher) (who : ProcessKey → Identity) (s : ProcState) :
    ProcState :=
  { s with identity := (who s.status.process).restrictEnv whitelist }

theorem ProcState.identified_eq
    (known : s.identity = (who s.status.process).restrictEnv whitelist) :
    s.identified whitelist who = s := by
  rw [identified, ← known]

theorem ProcState.identified_view : View (identified whitelist who) :=
  ⟨fun _ => rfl, fun _ => rfl, fun _ => rfl, fun _ => rfl⟩

theorem ProcState.identified_ratedAgainst (s : ProcState) (prev : Option ProcState) (host : Host) :
    (s.ratedAgainst prev host).identified whitelist who =
      (s.identified whitelist who).ratedAgainst (prev.map (identified whitelist who)) host := by
  cases prev with
  | none => rfl
  | some p =>
    have same : (p.identified whitelist who).sameProcess (s.identified whitelist who).status =
        p.sameProcess s.status := rfl
    simp only [ratedAgainst, Option.map_some, same]
    split <;> rfl

/-- A view that changes none of the states of a reply leaves it as it is. -/
theorem Reply.seen_of_states {view : ProcState → ProcState} {reply : Reply}
    (same : ∀ s ∈ reply.states, view s = s) : reply.seen view = reply := by
  cases reply with
  | cycle states =>
    cases states with
    | error err => rfl
    | ok states =>
      have unchanged := (List.map_congr_left same).trans (List.map_id' states)
      exact congrArg (Reply.cycle ∘ Except.ok) unchanged
  | one state =>
    cases state with
    | error err => rfl
    | ok s => exact congrArg (Reply.one ∘ Except.ok) (same s (List.mem_singleton_self s))
  | list entries => rfl

end

namespace Engine

variable {σ τ : Type} {R : σ → τ → Prop} {Clock : Float → Float → Prop}
  {part : Counters → Counters} {e : Engine (StateM σ)} {f : Engine (StateM τ)} {v : Visit σ}
  {registry registry' : Registry} {status : Status} {sample : Sample} {identity : Identity} {w : σ}
  {s : ProcState} {who : ProcessKey → Identity}

/-- Statuses tell the time of the start. When a visit gets so far as to need an identity, it can be
read, and it is the one that `who` gives for the process that the status shows. -/
structure Knows (e : Engine (StateM σ)) (who : ProcessKey → Identity) : Prop where
  starts : e.ReadsStart
  identity : ∀ {v : Visit σ} {status : Status} {sample : Sample} {w : σ},
    e.Reads v status sample w → (e.source.identity status.pid w).1 = .ok (who status.process)

/-- Engines that differ in nothing but whether they cache identities. Whether an identity is read
makes no difference to other answers. -/
structure DifferInCache (R : σ → τ → Prop) (e : Engine (StateM σ)) (f : Engine (StateM τ)) :
    Prop where
  rules : f.rules = e.rules.caching f.rules.cacheIdentity
  pids : Alike R e.source.pids f.source.pids
  status : ∀ pid, Alike R (e.source.status pid) (f.source.status pid)
  sample : ∀ pid, Alike R (e.source.sample pid) (f.source.sample pid)
  host : Alike R e.source.host f.source.host
  network : ∀ pid, Alike R (e.networkFor pid) (f.networkFor pid)
  cgroup : ∀ pid, Alike R (e.cgroupFor pid) (f.cgroupFor pid)
  stopwatch : Lockstep R (fun _ _ => True) e.stopwatch f.stopwatch
  left : ∀ w' pid, Stays (R · w') (e.source.identity pid)
  right : ∀ w pid, Stays (R w) (f.source.identity pid)

theorem Reads.has_start (starts : e.ReadsStart) (reads : e.Reads v status sample w) :
    status.startTicks.isSome = true := by
  obtain ⟨_, read, _⟩ := reads
  exact starts read

/-- The identity of a state is the one that `who` gives for its process. -/
def Identified (e : Engine (StateM σ)) (who : ProcessKey → Identity) (s : ProcState) : Prop :=
  s.status.startTicks.isSome = true ∧
    s.identity = (who s.status.process).restrictEnv e.rules.envWhitelist

theorem identity_of_cached (there : status.startTicks.isSome = true)
    (holds : ∀ p s, registry.get? p = some s → e.Identified who s)
    (cached : cachedIdentity? e.rules registry status = some identity) :
    identity = (who status.process).restrictEnv e.rules.envWhitelist := by
  obtain ⟨_, prev, found, same, _, rfl⟩ := cachedIdentity?_eq_some_iff.mp cached
  obtain ⟨here, identified⟩ := holds _ prev found
  rw [identified, (ProcState.sameProcess_iff_process here there).mp same]

namespace Knows

variable (knows : e.Knows who)
include knows

/-- An identity comes from the cache, or else it is read. -/
theorem identityFor (reads : e.Reads v status sample w) (registry : Registry) :
    ∃ identity w₁, e.identityFor registry status w = (.ok (identity, true), w₁) ∧
      (cachedIdentity? e.rules registry status = some identity ∨
        identity = (who status.process).restrictEnv e.rules.envWhitelist) := by
  unfold Engine.identityFor
  cases cached : cachedIdentity? e.rules registry status with
  | some identity => exact ⟨identity, w, rfl, .inl rfl⟩
  | none =>
    refine ⟨_, (e.source.identity status.pid w).2, ?_, .inr rfl⟩
    simp only [readIdentity, bind_apply, knows.identity reads, pure_apply]

/-- A visit makes a state with the identity that `who` gives, as far as the registry does. -/
theorem identified_of_sampled (made : e.Made v)
    (holds : ∀ p s, v.registry.get? p = some s → e.Identified who s)
    (sampled : v.outcome = .sampled s) : e.Identified who s := by
  obtain ⟨status, sample, identity, complete, w, w₁, reads, found, rfl⟩ :=
    made.outcome_eq_sampled_iff.mp sampled
  have started := reads.has_start knows.starts
  have known : identity = (who status.process).restrictEnv e.rules.envWhitelist := by
    obtain ⟨identity', _, looked, cached | read⟩ := knows.identityFor reads v.registry
    all_goals
      rw [found] at looked
      obtain ⟨rfl, _⟩ := Prod.mk.inj (Except.ok.inj (congrArg Prod.fst looked))
    · exact identity_of_cached started holds cached
    · exact read
  rw [Identified, stateFrom_status, stateFrom_identity.1]
  exact ⟨started, known⟩

end Knows

theorem identified_invariant (knows : e.Knows who) : e.Invariant fun _ registry =>
    ∀ p s, registry.get? p = some s → e.Identified who s where
  start := by
    intro p s found
    rw [Registry.get?_empty] at found
    contradiction
  visited := by
    intro before v made holds p s found
    obtain ⟨sampled, _⟩ | ⟨kept, _⟩ := Visit.settled_get?_iff.mp found
    · exact knows.identified_of_sampled made holds sampled
    · exact holds p s kept
  pruned := by
    intro before registry alive holds p s found
    rw [Registry.get?_prune] at found
    split at found
    · exact holds p s found
    · contradiction

/-- In the registry of a run nothing is changed by giving each state the identity it ought to
have. -/
theorem Knows.run_seen (knows : e.Knows who) (turns : List (Turn σ)) :
    (e.run turns).registry.seen (ProcState.identified e.rules.envWhitelist who) =
      (e.run turns).registry := by
  apply Registry.ext_get?
  intro p
  rw [Registry.seen_get?]
  cases found : (e.run turns).registry.get? p with
  | none => rfl
  | some s =>
    have holds := (identified_invariant knows).run turns p s found
    exact congrArg some (ProcState.identified_eq holds.2)

theorem Knows.reply_seen (knows : e.Knows who) (turns : List (Turn σ)) (t : Turn σ) :
    (e.reply (e.run turns) t).seen (ProcState.identified e.rules.envWhitelist who) =
      e.reply (e.run turns) t := by
  apply Reply.seen_of_states
  intro x reports
  obtain ⟨v, member, s, sampled, rfl⟩ := mem_reply_states reports
  obtain ⟨before, later, split⟩ := List.append_of_mem member
  have made := (e.visits_chained (e.run turns) t).made member
  have holds := (identified_invariant knows).before_visit split
  have known := (knows.identified_of_sampled made holds sampled).2
  rw [shown_seen ProcState.identified_view, ProcState.identified_eq known]

namespace DifferInCache

variable (differ : e.DifferInCache R f)
include differ

theorem envWhitelist : f.rules.envWhitelist = e.rules.envWhitelist := by
  rw [differ.rules, Rules.caching]

theorem procs : f.rules.procs = e.rules.procs := by
  rw [differ.rules, Rules.caching]

/-- From registries that look the same, states are made that look the same. -/
theorem stateFrom {w' : τ} (host : Host) (status : Status) (sample : Sample)
    (identity identity' : Identity) (worlds : R w w')
    (same : registry.seen (.identified e.rules.envWhitelist who) =
      registry'.seen (.identified e.rules.envWhitelist who)) :
    (e.stateFrom registry host status sample identity true w).identified e.rules.envWhitelist who =
        (f.stateFrom registry' host status sample identity' true w').identified
          e.rules.envWhitelist who ∧
      R (e.afterExtras status.pid w) (f.afterExtras status.pid w') := by
  obtain ⟨networks, worlds⟩ := differ.network status.pid w w' worlds
  obtain ⟨cgroups, worlds⟩ := differ.cgroup status.pid _ _ worlds
  have prev := congrArg (Registry.get? · status.pid) same
  simp only [Registry.seen_get?] at prev
  refine ⟨?_, worlds⟩
  simp only [Engine.stateFrom, ProcState.identified_ratedAgainst, prev, networks, cgroups]
  rfl

/-- What has been read is filled in to states that look the same. -/
theorem fill {v : Visit σ} {v' : Visit τ} {w₁ : σ} {w₁' : τ} (knows : e.Knows who)
    (knows' : f.Knows who) (host : Host) (worlds : R w₁ w₁')
    (same : registry.seen (.identified e.rules.envWhitelist who) =
      registry'.seen (.identified e.rules.envWhitelist who))
    (reads : ∀ {sample : Sample} {w : σ},
      e.source.sample status.pid w₁ = (.ok sample, w) → e.Reads v status sample w)
    (reads' : ∀ {sample : Sample} {w : τ},
      f.source.sample status.pid w₁' = (.ok sample, w) → f.Reads v' status sample w) :
    (e.fill registry host status w₁).1.map (ProcState.identified e.rules.envWhitelist who) =
        (f.fill registry' host status w₁').1.map
          (ProcState.identified e.rules.envWhitelist who) ∧
      R (e.fill registry host status w₁).2 (f.fill registry' host status w₁').2 := by
  rcases took : e.source.sample status.pid w₁ with ⟨err | sample, w₂⟩
  · obtain ⟨w₂', took', worlds⟩ := (differ.sample status.pid).answer worlds took
    rw [fill_of_sample_error took, fill_of_sample_error took']
    exact ⟨rfl, worlds⟩
  obtain ⟨w₂', took', worlds⟩ := (differ.sample status.pid).answer worlds took
  obtain ⟨identity, w₃, found, _⟩ := knows.identityFor (reads took) registry
  obtain ⟨identity', w₃', found', _⟩ := knows'.identityFor (reads' took') registry'
  -- Either may have read an identity where the other has not, but the worlds are still related.
  have moved := identityFor_stays (differ.left w₂' status.pid) registry w₂ worlds
  rw [found] at moved
  have worlds := identityFor_stays (differ.right w₃ status.pid) registry' w₂' moved
  rw [found'] at worlds
  obtain ⟨states, worlds⟩ := differ.stateFrom host status sample identity identity' worlds same
  rw [fill_of_identity took found, fill_of_identity took' found']
  exact ⟨congrArg Except.ok states, worlds⟩

theorem simulates (knows : e.Knows who) (knows' : f.Knows who) (looks : Counters.Timed Clock part)
    (stopwatch : Lockstep R Clock e.stopwatch f.stopwatch) :
    e.Simulates R Clock (.identified e.rules.envWhitelist who) part f where
  shows := ProcState.identified_view
  looks := looks
  procs := differ.procs.symm
  reportTicks := (congrArg Rules.reportTicks differ.rules).symm
  top := (congrArg Rules.top differ.rules).symm
  pids := differ.pids
  status := differ.status
  host := differ.host
  stopwatch := stopwatch
  examine := by
    intro registry registry' byName host pid same
    refine examine_lockstep differ.procs.symm (differ.status pid) ?_
    intro status w w₁ w' w₁' read read' accepted worlds
    have accepted' : byName = true → f.rules.procs.accepts status.name = true :=
      differ.procs ▸ accepted
    have reads {sample : Sample} {w₂ : σ}
        (took : e.source.sample status.pid w₁ = (.ok sample, w₂)) :
        e.Reads (e.look byName registry host pid w) status sample w₂ :=
      ⟨w₁, read, accepted, took⟩
    have reads' {sample : Sample} {w₂' : τ}
        (took' : f.source.sample status.pid w₁' = (.ok sample, w₂')) :
        f.Reads (f.look byName registry' host pid w') status sample w₂' :=
      ⟨w₁', read', accepted', took'⟩
    exact differ.fill knows knows' host worlds same reads reads'

end DifferInCache

/-- The cache is transparent. Take two engines that differ in nothing but whether they cache
identities, and runs of the same calls in which all statuses tell the time of the start, every
identity that is asked for can be read, and the identity read depends on nothing but the id, the
name and the start that the status shows. After every call the registries are equal and so are the
counts, and even all counters where the clocks show the same; and the next call has the same
reply. -/
theorem cache_is_transparent (differ : e.DifferInCache R f) (knows : e.Knows who)
    (knows' : f.Knows who) {turns : List (Turn σ)} {turns' : List (Turn τ)}
    (alongside : List.Forall₂ (Turn.Alongside R) turns turns') :
    (e.run turns).registry = (f.run turns').registry ∧
      (e.run turns).counters.untimed = (f.run turns').counters.untimed ∧
      (Alike R e.stopwatch f.stopwatch → (e.run turns).counters = (f.run turns').counters) ∧
      ∀ t t', Turn.Alongside R t t' → e.reply (e.run turns) t = f.reply (f.run turns') t' := by
  have sim := differ.simulates knows knows' Counters.untimed_timed differ.stopwatch
  have agree := sim.run alongside
  have same := knows'.run_seen turns'
  rw [differ.envWhitelist, ← agree.registry, knows.run_seen] at same
  refine ⟨same, agree.counters, fun clock => ?_, fun t t' both => ?_⟩
  · exact ((differ.simulates knows knows' Counters.whole_timed clock).run alongside).counters
  · have replies := sim.reply agree both
    have reply' := knows'.reply_seen turns' t'
    rwa [differ.envWhitelist, ← replies, knows.reply_seen] at reply'

end Engine

namespace Solo

/-- Reads the identity in every visit. -/
def uncached : Engine (StateM Solo) := { engine with rules := engine.rules.caching false }

theorem differInCache : engine.DifferInCache Eq uncached where
  rules := rfl
  pids := .refl _
  status _ := .refl _
  sample _ := .refl _
  host := .refl _
  network _ := .refl _
  cgroup _ := .refl _
  stopwatch := (Alike.refl engine.stopwatch).lockstep.mono fun _ _ _ => trivial
  left _ _ := fun _ same => same
  right _ _ := fun _ same => same

def worker : Identity := ⟨some "root", none, ["worker"], some "worker", none⟩

theorem knows : engine.Knows fun _ => worker := ⟨Engine.solo_reads_start, fun _ => rfl⟩

theorem uncached_knows : uncached.Knows fun _ => worker := ⟨Engine.solo_reads_start, fun _ => rfl⟩

end Solo

/-- From the first cycle on one engine has the identity in its cache, and the other never. -/
theorem Engine.solo_cache_is_transparent :
    let turns : List (Turn Solo) := [⟨.cycle, .running 5 1⟩, ⟨.cycle, .running 9 2⟩]
    let next : Turn Solo := ⟨.one 7, .running 12 3⟩
    let status : Status := ⟨7, some 1, none, "worker", .running, some 500⟩
    let r := Solo.engine.run turns
    let r' := Solo.uncached.run turns
    Solo.engine.DifferInCache Eq Solo.uncached ∧
      Solo.engine.Knows (fun _ => Solo.worker) ∧ Solo.uncached.Knows (fun _ => Solo.worker) ∧
      List.Forall₂ (Turn.Alongside Eq) turns turns ∧
      Alike Eq Solo.engine.stopwatch Solo.uncached.stopwatch ∧
      r.registry = r'.registry ∧ r.counters = r'.counters ∧
      cachedIdentity? Solo.engine.rules r.registry status = some Solo.worker ∧
      cachedIdentity? Solo.uncached.rules r'.registry status = none ∧
      Solo.engine.reply r next = Solo.uncached.reply r' next := by
  intro turns next status r r'
  have alongside : List.Forall₂ (Turn.Alongside Eq) turns turns :=
    List.forall₂_same.mpr fun _ _ => ⟨rfl, rfl⟩
  obtain ⟨registries, _, counters, replies⟩ :=
    cache_is_transparent Solo.differInCache Solo.knows Solo.uncached_knows alongside
  exact ⟨Solo.differInCache, Solo.knows, Solo.uncached_knows, alongside, .refl _, registries,
    counters (.refl _), by decide +kernel, rfl, replies next next ⟨rfl, rfl⟩⟩

end ProcMeter
