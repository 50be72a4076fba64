import ProcMeter.Proofs.Watching

/-! Readers of networks and control groups are no more than extras. Whether there are any, what
they answer, and which counters and variables are kept, shows in the fields made for them and
nowhere else. -/
namespace ProcMeter

def Identity.withoutEnv (i : Identity) : Identity := { i with env := none }

/-- A state without the fields that depend on extras. -/
def ProcState.bare (s : ProcState) : ProcState :=
  { s with identity := s.identity.withoutEnv, network := none, cgroup := none }

/-- An identity without its variables, and whether it is complete. -/
def bareKnown (known : Identity × Bool) : Identity × Bool := (known.1.withoutEnv, known.2)

/-- The rules with other filters for variables and network counters. -/
def Rules.filtering (rules : Rules) (envWhitelist : Matcher) (networkMetrics : Option Matcher) :
    Rules :=
  { rules with envWhitelist := envWhitelist, networkMetrics := networkMetrics }

/-- Worlds are related, and so far the same identities were read in both. -/
def Beside {σ τ : Type} (R : σ → τ → Prop) (w : Watched σ) (w' : Watched τ) : Prop :=
  R w.1 w'.1 ∧ w.2 = w'.2

theorem aside_lockstep {σ τ α β : Type} {R : σ → τ → Prop} {S : α → β → Prop} {x : StateM σ α}
    {y : StateM τ β} (both : Lockstep R S x y) : Lockstep (Beside R) S (aside x) (aside y) := by
  rintro w w' ⟨worlds, logs⟩
  obtain ⟨related, worlds⟩ := both w.1 w'.1 worlds
  exact ⟨related, worlds, logs⟩

theorem Identity.withoutEnv_restrictEnv (i : Identity) (whitelist : Matcher) :
    (i.restrictEnv whitelist).withoutEnv = i.withoutEnv := by
  unfold restrictEnv
  split <;> rfl

namespace ProcState

theorem bare_view : View bare := ⟨fun _ => rfl, fun _ => rfl, fun _ => rfl, fun _ => rfl⟩

theorem bare_ratedAgainst (s : ProcState) (prev : Option ProcState) (host : Host) :
    (s.ratedAgainst prev host).bare = s.bare.ratedAgainst (prev.map bare) host := by
  cases prev with
  | none => rfl
  | some p =>
    have same : p.bare.sameProcess s.bare.status = p.sameProcess s.status := rfl
    simp only [ratedAgainst, Option.map_some, same]
    split <;> rfl

end ProcState

namespace Engine

variable {σ τ : Type} {R : σ → τ → Prop} {L : σ → Prop} {Clock : Float → Float → Prop}
  {part : Counters → Counters} {e : Engine (StateM σ)} {f : Engine (StateM τ)}
  {registry registry' : Registry}

/-- The identities that a call reads. -/
def identityReads (e : Engine (StateM σ)) (r : Record) (t : Turn σ) : List IdentityRead :=
  (e.watched.answer r t.call (t.world, [])).2.2

/-- The identities that a run of calls reads, from first to last. -/
def identityReadsFrom (e : Engine (StateM σ)) : Record → List (Turn σ) → List IdentityRead
  | _, [] => []
  | r, t :: turns => e.identityReads r t ++ e.identityReadsFrom (e.after r t) turns

/-- The extras of an engine do not lead out of the worlds of the kind `L`. -/
structure ExtrasStay (L : σ → Prop) (e : Engine (StateM σ)) : Prop where
  network : ∀ source, e.network = some source → ∀ pid, Stays L (source pid)
  cgroups : ∀ source, e.cgroups = some source → ∀ pid, Stays L (source pid)

/-- Engines that differ in nothing but their extras, and in which variables and network counters
they keep. What extras are asked makes no difference to other answers. -/
structure DifferInExtras (R : σ → τ → Prop) (e : Engine (StateM σ)) (f : Engine (StateM τ)) :
    Prop where
  rules : f.rules = e.rules.filtering f.rules.envWhitelist f.rules.networkMetrics
  pids : Alike R e.source.pids f.source.pids
  status : ∀ pid, Alike R (e.source.status pid) (f.source.status pid)
  sample : ∀ pid, Alike R (e.source.sample pid) (f.source.sample pid)
  identity : ∀ pid, Alike R (e.source.identity pid) (f.source.identity pid)
  host : Alike R e.source.host f.source.host
  stopwatch : Lockstep R (fun _ _ => True) e.stopwatch f.stopwatch
  left : ∀ w', e.ExtrasStay (R · w')
  right : ∀ w, f.ExtrasStay (R w)

theorem cachedIdentity?_seen (rules : Rules) (registry : Registry) (status : Status) :
    cachedIdentity? rules (registry.seen ProcState.bare) status =
      (cachedIdentity? rules registry status).map Identity.withoutEnv := by
  simp only [cachedIdentity?, Registry.seen_get?]
  cases rules.cacheIdentity with
  | false => rfl
  | true =>
    cases registry.get? status.pid with
    | none => rfl
    | some prev =>
      have same : prev.bare.sameProcess status = prev.sameProcess status := rfl
      have complete : prev.bare.identityComplete = prev.identityComplete := rfl
      simp only [if_true, Option.map_some, same, complete]
      split <;> rfl

namespace ExtrasStay

theorem networkFor (stay : e.ExtrasStay L) (pid : Pid) : Stays L (e.networkFor pid) := by
  unfold Engine.networkFor
  split
  · exact .pure _
  · rename_i source attached
    refine (stay.network source attached pid).bind fun answer => ?_
    cases answer with
    | error err => exact .pure _
    | ok counters =>
      dsimp only
      split
      · exact .pure _
      · exact .pure _

theorem cgroupFor (stay : e.ExtrasStay L) (pid : Pid) : Stays L (e.cgroupFor pid) := by
  unfold Engine.cgroupFor
  split
  · exact .pure _
  · rename_i source attached
    refine (stay.cgroups source attached pid).bind fun answer => ?_
    cases answer with
    | error err => exact .pure _
    | ok info => exact .pure _

theorem watched (stay : e.ExtrasStay L) (K : List IdentityRead → Prop) :
    e.watched.ExtrasStay fun w => L w.1 ∧ K w.2 where
  network := by
    intro source attached pid w kept
    obtain ⟨source, present, rfl⟩ := Option.map_eq_some_iff.mp attached
    exact ⟨stay.network source present pid w.1 kept.1, kept.2⟩
  cgroups := by
    intro source attached pid w kept
    obtain ⟨source, present, rfl⟩ := Option.map_eq_some_iff.mp attached
    exact ⟨stay.cgroups source present pid w.1 kept.1, kept.2⟩

end ExtrasStay

namespace DifferInExtras

variable (alike : e.DifferInExtras R f)
include alike

theorem readIdentity (pid : Pid) :
    Lockstep R (fun a b => a.map bareKnown =
      b.map bareKnown) (e.readIdentity pid) (f.readIdentity pid) := by
  refine (alike.identity pid).lockstep.bind ?_
  rintro answer _ rfl
  cases answer with
  | ok identity =>
    refine .pure (congrArg (fun i => Except.ok (i, true)) ?_)
    rw [Identity.withoutEnv_restrictEnv, Identity.withoutEnv_restrictEnv]
  | error err =>
    dsimp only
    split
    · exact .pure rfl
    · refine .pure (congrArg (fun i => Except.ok (i, false)) ?_)
      rw [Identity.withoutEnv_restrictEnv, Identity.withoutEnv_restrictEnv]

theorem identityFor (same : registry.seen ProcState.bare = registry'.seen ProcState.bare)
    (status : Status) :
    Lockstep R (fun a b => a.map bareKnown =
      b.map bareKnown) (e.identityFor registry status)
      (f.identityFor registry' status) := by
  have known : (cachedIdentity? e.rules registry status).map Identity.withoutEnv =
      (cachedIdentity? f.rules registry' status).map Identity.withoutEnv := by
    rw [← cachedIdentity?_seen, ← cachedIdentity?_seen, same]
    rw [alike.rules]
    rfl
  unfold Engine.identityFor
  cases here : cachedIdentity? e.rules registry status with
  | none =>
    cases there : cachedIdentity? f.rules registry' status with
    | none => exact alike.readIdentity status.pid
    | some identity' => simp [here, there] at known
  | some identity =>
    cases there : cachedIdentity? f.rules registry' status with
    | none => simp [here, there] at known
    | some identity' =>
      simp only [here, there, Option.map_some, Option.some.injEq] at known
      exact .pure (congrArg (fun i => Except.ok (i, true)) known)

theorem fill (same : registry.seen ProcState.bare = registry'.seen ProcState.bare) (host : Host)
    (status : Status) :
    Lockstep R (fun a b => a.map ProcState.bare = b.map ProcState.bare)
      (e.fill registry host status) (f.fill registry' host status) := by
  have prev := congrArg (Registry.get? · status.pid) same
  simp only [Registry.seen_get?] at prev
  refine (alike.sample status.pid).lockstep.bind ?_
  rintro answer _ rfl
  cases answer with
  | error err => exact .pure rfl
  | ok sample =>
    refine (alike.identityFor same status).bind fun answer answer' both => ?_
    obtain ⟨err, rfl, rfl⟩ | ⟨known, known', rfl, rfl, identities⟩ := except_cases_of_map_eq both
    · exact .pure rfl
    obtain ⟨identity, complete⟩ := known
    obtain ⟨identity', complete'⟩ := known'
    obtain rfl : complete = complete' := congrArg Prod.snd identities
    have identities : identity.withoutEnv = identity'.withoutEnv := congrArg Prod.fst identities
    -- The extras of the two engines are asked in turn, for neither need have those of the other.
    refine .bind_left (P := fun _ => True) (fun w' => (alike.left w').networkFor status.pid)
      (fun _ => trivial) fun network _ => ?_
    refine .bind_right (Q := fun _ => True) (fun w => (alike.right w).networkFor status.pid)
      (fun _ => trivial) fun network' _ => ?_
    refine .bind_left (P := fun _ => True) (fun w' => (alike.left w').cgroupFor status.pid)
      (fun _ => trivial) fun cgroup _ => ?_
    refine .bind_right (Q := fun _ => True) (fun w => (alike.right w).cgroupFor status.pid)
      (fun _ => trivial) fun cgroup' _ => ?_
    refine .pure (congrArg Except.ok ?_)
    rw [ProcState.bare_ratedAgainst, ProcState.bare_ratedAgainst, prev]
    simp only [ProcState.bare, identities]

/-- The clocks decide which part of the counters can be looked at. -/
theorem simulates (looks : Counters.Timed Clock part)
    (stopwatch : Lockstep R Clock e.stopwatch f.stopwatch) :
    e.Simulates R Clock ProcState.bare part f where
  shows := ProcState.bare_view
  looks := looks
  procs := (congrArg Rules.procs alike.rules).symm
  reportTicks := (congrArg Rules.reportTicks alike.rules).symm
  top := (congrArg Rules.top alike.rules).symm
  pids := alike.pids
  status := alike.status
  host := alike.host
  stopwatch := stopwatch
  examine _ host pid same :=
    examine_lockstep (congrArg Rules.procs alike.rules).symm (alike.status pid)
      fun _ _ _ worlds => alike.fill same host _ _ _ worlds

theorem simulates_untimed : e.Simulates R (fun _ _ => True) ProcState.bare Counters.untimed f :=
  alike.simulates Counters.untimed_timed alike.stopwatch

theorem watched : e.watched.DifferInExtras (Beside R) f.watched where
  rules := alike.rules
  pids := aside_lockstep alike.pids.lockstep
  status pid := aside_lockstep (alike.status pid).lockstep
  sample pid := aside_lockstep (alike.sample pid).lockstep
  identity := by
    rintro pid w w' ⟨worlds, logs⟩
    obtain ⟨same, worlds⟩ := alike.identity pid w.1 w'.1 worlds
    refine ⟨same, worlds, ?_⟩
    simp only [Engine.watched, same, logs]
  host := aside_lockstep alike.host.lockstep
  stopwatch := aside_lockstep alike.stopwatch
  left w' := (alike.left w'.1).watched (· = w'.2)
  right w := (alike.right w.1).watched (w.2 = ·)

theorem reads {r r' : Record} {turns : List (Turn σ)} {turns' : List (Turn τ)}
    (agree : Record.Agree ProcState.bare Counters.untimed r r')
    (alongside : List.Forall₂ (Turn.Alongside R) turns turns') :
    e.identityReadsFrom r turns = f.identityReadsFrom r' turns' := by
  induction alongside generalizing r r' with
  | nil => rfl
  | @cons t t' turns turns' both _ ih =>
    have later := (answer_alongside both (alike.simulates_untimed.answer agree)).2
    obtain ⟨called, worlds⟩ := both
    have logs := (alike.watched.simulates_untimed.answer agree t.call (t.world, []) (t'.world, [])
      ⟨worlds, rfl⟩).2.2
    have here : e.identityReads r t = f.identityReads r' t' := by
      rw [identityReads, identityReads, ← called]
      exact logs
    simp only [identityReadsFrom, here, ih later]

end DifferInExtras

/-- Extras do not disturb the sampling. Take two runs of the same calls, where all answers are the
same but those of the readers of networks and control groups, which need not be there, and rules
that differ in no more than the filters for variables and network counters. After every call the
registries have the same keys, and states that are equal but for the fields of the extras; the same
identities have been read; and the counts are equal, as are all counters where the clocks show the
same. The next call fails in both or in neither, in the same way, and reports the same processes in
the same order, in states that are equal but for the fields of the extras. -/
theorem extras_leave_sampling (alike : e.DifferInExtras R f) {turns : List (Turn σ)}
    {turns' : List (Turn τ)} (alongside : List.Forall₂ (Turn.Alongside R) turns turns') :
    (e.run turns).registry.seen ProcState.bare = (f.run turns').registry.seen ProcState.bare ∧
      (e.run turns).registry.pids = (f.run turns').registry.pids ∧
      e.identityReadsFrom .empty turns = f.identityReadsFrom .empty turns' ∧
      (e.run turns).counters.untimed = (f.run turns').counters.untimed ∧
      (Alike R e.stopwatch f.stopwatch → (e.run turns).counters = (f.run turns').counters) ∧
      ∀ t t', Turn.Alongside R t t' →
        (e.reply (e.run turns) t).seen ProcState.bare =
          (f.reply (f.run turns') t').seen ProcState.bare := by
  have agree := alike.simulates_untimed.run alongside
  have keys := congrArg Registry.pids agree.registry
  rw [Registry.pids_seen, Registry.pids_seen] at keys
  refine ⟨agree.registry, keys, alike.reads ⟨rfl, rfl⟩ alongside, agree.counters, ?_, ?_⟩
  · exact fun clock => ((alike.simulates Counters.whole_timed clock).run alongside).counters
  · exact fun t t' both => alike.simulates_untimed.reply agree both

end Engine

/-- With readers of both kinds: of networks it finds every process gone, and of control groups it
reads the same for all. -/
def Solo.extended : Engine (StateM Solo) :=
  { Solo.engine with
    rules := Solo.engine.rules.filtering ⟨[fun _ => true]⟩ (some ⟨[]⟩)
    network := some fun pid w => (.error (.notFound pid), w)
    cgroups := some fun _ w => (.ok (some ⟨[⟨0, [], "/worker"⟩]⟩), w) }

theorem Solo.differInExtras : Solo.engine.DifferInExtras Eq Solo.extended where
  rules := rfl
  pids := .refl _
  status _ := .refl _
  sample _ := .refl _
  identity _ := .refl _
  host := .refl _
  stopwatch := (Alike.refl Solo.engine.stopwatch).lockstep.mono fun _ _ _ => trivial
  left _ := ⟨fun _ attached => (nomatch attached), fun _ attached => (nomatch attached)⟩
  right _ := by
    constructor
    · intro source attached pid w same
      obtain rfl := Option.some.inj attached
      exact same
    · intro source attached pid w same
      obtain rfl := Option.some.inj attached
      exact same

/-- The process is sampled no less for the reader that finds it gone. -/
theorem Engine.solo_extras_leave_sampling :
    let turns : List (Turn Solo) := [⟨.cycle, .running 5 1⟩, ⟨.cycle, .running 9 2⟩]
    let next : Turn Solo := ⟨.one 7, .running 12 3⟩
    let r := Solo.engine.run turns
    let r' := Solo.extended.run turns
    Solo.engine.DifferInExtras Eq Solo.extended ∧
      List.Forall₂ (Turn.Alongside Eq) turns turns ∧
      Alike Eq Solo.engine.stopwatch Solo.extended.stopwatch ∧
      Solo.engine.identityReadsFrom .empty turns = Solo.extended.identityReadsFrom .empty turns ∧
      r.counters = r'.counters ∧ r.registry.pids = r'.registry.pids ∧ r'.registry.pids = [7] ∧
      (Solo.engine.reply r next).seen ProcState.bare =
        (Solo.extended.reply r' next).seen ProcState.bare := by
  intro turns next r r'
  have alongside : List.Forall₂ (Turn.Alongside Eq) turns turns :=
    List.forall₂_same.mpr fun _ _ => ⟨rfl, rfl⟩
  obtain ⟨_, keys, reads, _, counters, replies⟩ :=
    extras_leave_sampling Solo.differInExtras alongside
  exact ⟨Solo.differInExtras, alongside, .refl _, reads, counters (.refl _), keys,
    by decide +kernel, replies next next ⟨rfl, rfl⟩⟩

end ProcMeter
