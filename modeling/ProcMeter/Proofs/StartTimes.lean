import ProcMeter.Proofs.IdentityCache

/-! Identities along a chain of samplings. An identity is taken over from the last sampling of the
same pid, if the name is the same and the starts are where both are known. Each step looks no
further back than this, so a status without a start stands between any two different starts across
which an identity is carried. -/
namespace ProcMeter

/-- In none of the visits that sample a process is its identity read. -/
def Unread {σ : Type} (visits : List (Visit (Watched σ))) (p : Pid) : Prop :=
  ∀ x ∈ visits, ∀ s, x.outcome = .sampled s → s.pid = p → x.reads = []

/-- Some visit samples a process with a status that does not tell its start. -/
def Startless {σ : Type} (visits : List (Visit σ)) (p : Pid) : Prop :=
  ∃ x ∈ visits, ∃ s, x.outcome = .sampled s ∧ s.pid = p ∧ s.status.startTicks = none

/-- The starts of two states, where both are known, are the same. -/
def ProcState.StartsWith (s s' : ProcState) : Prop :=
  ∀ a b, s.status.startTicks = some a → s'.status.startTicks = some b → a = b

theorem ProcState.StartsWith.trans {s t s' : ProcState} (first : s.StartsWith t)
    (next : t.StartsWith s') (known : t.status.startTicks ≠ none) : s.StartsWith s' := by
  intro a b here there
  obtain ⟨c, middle⟩ := Option.ne_none_iff_exists'.mp known
  exact (first a c here middle).trans (next c b middle there)

section
variable {σ : Type} {visits visits' : List (Visit σ)} {p : Pid} {s : ProcState}

theorem Startless.mono (startless : Startless visits p) (more : visits ⊆ visits') :
    Startless visits' p := by
  obtain ⟨x, member, found⟩ := startless
  exact ⟨x, more member, found⟩

/-- Since a visit has sampled a process, it was sampled last either there or later. -/
theorem Latest.since {before mid : List (Visit σ)} {u : Visit σ} {t : ProcState}
    (latest : Latest (before ++ u :: mid) p t) (sampled : u.outcome = .sampled s)
    (same : s.pid = p) :
    t = s ∨ ∃ mid' x since, mid = mid' ++ x :: since ∧ x.outcome = .sampled t := by
  obtain ⟨_, before', x, since, split, found, others⟩ := latest
  obtain ⟨late, _, rest⟩ | ⟨early, rfl, rest⟩ := List.append_eq_append_iff.mp split
  · cases late with
    | nil =>
      obtain ⟨rfl, rfl⟩ := List.cons.inj rest
      exact .inl (Engine.Outcome.sampled.inj (found.symm.trans sampled))
    | cons y mid' =>
      obtain ⟨rfl, rfl⟩ := List.cons.inj rest
      exact .inr ⟨mid', x, since, rfl, found⟩
  · cases early with
    | nil =>
      obtain ⟨rfl, rfl⟩ := List.cons.inj rest
      exact .inl (Engine.Outcome.sampled.inj (found.symm.trans sampled))
    | cons y early =>
      obtain ⟨rfl, rfl⟩ := List.cons.inj rest
      exact absurd same (others u (by simp) s sampled)

end

namespace Engine

variable {σ : Type} {e : Engine (StateM σ)} {s s' : ProcState} {u v : Visit (Watched σ)}
  {before mid later : List (Visit (Watched σ))} {turns : List (Turn (Watched σ))}

/-- A state does without a read of its own just when there is an entry to take its identity from. -/
theorem Made.reads_eq_nil_iff (made : e.watched.Made v) (sampled : v.outcome = .sampled s) :
    v.reads = [] ↔ ¬ NeedsIdentity e.rules v.registry s.status := by
  obtain ⟨_, _, _, _, _, _, identifies, asks, _, _⟩ := made.identifies_of_sampled sampled
  rw [← cachedIdentity?_eq_none_iff, asks]
  cases identifies with
  | known known => simp [known]
  | answered unknown => simp [unknown]
  | refused unknown => simp [unknown]

/-- The entry from which an identity is taken over. -/
theorem Made.takes_over (made : e.watched.Made v) (sampled : v.outcome = .sampled s)
    (silent : v.reads = []) :
    ∃ prev, v.registry.get? s.pid = some prev ∧ prev.sameProcess s.status = true ∧
      s.identity = prev.identity := by
  obtain ⟨_, _, _, _, _, _, identifies, asks, found, _⟩ := made.identifies_of_sampled sampled
  rw [silent] at asks
  subst asks
  cases identifies with
  | known known =>
    obtain ⟨_, prev, there, same, _, taken⟩ := cachedIdentity?_eq_some_iff.mp known
    exact ⟨prev, there, same, found.trans taken.symm⟩

/-- An identity that is not read is that of the last sampling. -/
theorem takes_over_latest (split : e.watched.history turns = before ++ v :: later)
    (sampled : v.outcome = .sampled s) (silent : v.reads = []) :
    ∃ prev, Latest before s.pid prev ∧ prev.status.name = s.status.name ∧
      prev.StartsWith s ∧ s.identity = prev.identity := by
  obtain ⟨made, holds⟩ := latest_invariant.at_visit split
  obtain ⟨prev, found, same, taken⟩ := made.takes_over sampled silent
  obtain ⟨_, name, starts⟩ := (prev.sameProcess_iff s.status).mp same
  exact ⟨prev, holds _ prev found, name, starts, taken⟩

/-- As long as no identity is read, it is carried from sampling to sampling. -/
theorem carried_of_unread
    (split : e.watched.history turns = (before ++ u :: mid) ++ v :: later)
    (first : u.outcome = .sampled s) (last : v.outcome = .sampled s') (same : s.pid = s'.pid)
    (unread : Unread (mid ++ [v]) s'.pid) :
    s'.status.name = s.status.name ∧ s'.identity = s.identity ∧
      (Startless mid s'.pid ∨ s.StartsWith s') := by
  -- strong induction: the last sampling before `v` is `u`, or it stands in a shorter `mid`
  induction hlen : mid.length using Nat.strongRecOn generalizing mid v later s' with
  | _ n ih =>
    obtain ⟨t, latest, name, starts, taken⟩ :=
      takes_over_latest split last (unread v (by simp) s' last rfl)
    obtain rfl | ⟨front, x, since, rfl, found⟩ := latest.since first same
    · exact ⟨name.symm, taken, .inr starts⟩
    have there : t.pid = s'.pid := latest.1
    have split' : e.watched.history turns =
        (before ++ u :: front) ++ x :: (since ++ v :: later) := by
      rw [split]
      simp
    have unread' : Unread (front ++ [x]) t.pid := by
      rw [there]
      intro y member
      have more : y ∈ (front ++ x :: since) ++ [v] := by
        rw [List.mem_append, List.mem_singleton] at member
        rw [List.append_assoc, List.mem_append]
        exact member.imp_right fun here => by simp [here]
      exact unread y more
    have shorter : front.length < n := by
      rw [List.length_append, List.length_cons] at hlen
      omega
    obtain ⟨name', taken', rest⟩ :=
      ih front.length shorter split' found (same.trans there.symm) unread' rfl
    refine ⟨name.symm.trans name', taken.trans taken', ?_⟩
    rw [there] at rest
    obtain startless | starts' := rest
    · exact .inl (startless.mono (List.subset_append_left _ _))
    by_cases known : t.status.startTicks = none
    · exact .inl ⟨x, by simp, t, found, there, known⟩
    · exact .inr (starts'.trans starts known)

theorem not_startless (starts : e.ReadsStart)
    (split : e.watched.history turns = (before ++ u :: mid) ++ v :: later) (p : Pid) :
    ¬ Startless mid p := by
  rintro ⟨x, member, s, sampled, _, unknown⟩
  obtain ⟨front, rest, rfl⟩ := List.append_of_mem member
  have here : e.watched.history turns =
      (before ++ u :: front) ++ x :: (rest ++ v :: later) := by
    rw [split]
    simp
  have made := (latest_invariant.at_visit here).1
  obtain ⟨_, _, _, _, _, reads, _⟩ := made.identifies_of_sampled sampled
  have known := reads.started starts
  rw [unknown] at known
  contradiction

/-- How far an identity is carried. A sampled process goes without a read of its identity just when
there is an entry that can stand for it; its identity is then that of the last sampling, which has
the same name, and the same start if both are known. So name and identity stay as they are as long
as none is read, and between different starts one sampling has a status that does not tell its
start. Where all statuses tell the start, an identity never crosses a change of it. -/
theorem identity_crosses_unknown_starts_only (e : Engine (StateM σ))
    (turns : List (Turn (Watched σ))) (before : List (Visit (Watched σ))) (v : Visit (Watched σ))
    (later : List (Visit (Watched σ))) (s' : ProcState)
    (split : e.watched.history turns = before ++ v :: later) (sampled : v.outcome = .sampled s') :
    (v.reads = [] ↔ ¬ NeedsIdentity e.rules v.registry s'.status) ∧
    (v.reads = [] → ∃ prev, Latest before s'.pid prev ∧ prev.status.name = s'.status.name ∧
      prev.StartsWith s' ∧ s'.identity = prev.identity) ∧
    ∀ front u mid s, before = front ++ u :: mid → u.outcome = .sampled s → s.pid = s'.pid →
      Unread (mid ++ [v]) s'.pid →
        s'.status.name = s.status.name ∧ s'.identity = s.identity ∧
        (Startless mid s'.pid ∨ s.StartsWith s') ∧
        (e.ReadsStart → s.StartsWith s') := by
  refine ⟨?_, takes_over_latest split sampled, ?_⟩
  · exact (latest_invariant.at_visit split).1.reads_eq_nil_iff sampled
  · rintro front u mid s rfl first same unread
    obtain ⟨name, taken, carried⟩ := carried_of_unread split first sampled same unread
    refine ⟨name, taken, carried, fun starts => ?_⟩
    exact carried.resolve_left (not_startless starts split s'.pid)

end Engine

/-- A host with one process, in whose place there may come another of the same name. The world is
the start of the process, as far as it is told, and the command. -/
abbrev Recycled := Option UInt64 × String

namespace Recycled

def source : Source (StateM Recycled) where
  pids w := (.ok [7], w)
  status pid w := (.ok ⟨pid, some 1, none, "worker", .running, w.1⟩, w)
  sample _ w :=
    (.ok ⟨⟨.ofTicks 5, .ofTicks 0, .ofTicks 5, none⟩, ⟨none, ⟨some 4096, none⟩, none⟩, ⟨1, 0⟩⟩, w)
  identity _ w := (.ok ⟨some "root", none, [w.2], some w.2, none⟩, w)
  host w := (⟨some 1000000, 4⟩, w)

def engine : Engine (StateM Recycled) where
  rules := Solo.engine.rules
  source := source
  network := none
  cgroups := none
  stopwatch w := (0.0, w)

/-- Two processes are sampled, and between them a status that does not tell the start. -/
def turns : List (Turn (Watched Recycled)) :=
  [⟨.cycle, (some 100, "one"), []⟩, ⟨.cycle, (none, "two"), []⟩, ⟨.cycle, (some 200, "two"), []⟩]

theorem crosses_unknown_starts_only :
    ∃ u x v s s', engine.watched.history turns = [u, x] ++ v :: [] ∧ u.outcome = .sampled s ∧
      v.outcome = .sampled s' ∧ s.pid = s'.pid ∧ Unread ([x] ++ [v]) s'.pid ∧ ¬ s.StartsWith s' ∧
      s'.identity = s.identity ∧ Startless [x] s'.pid := by
  obtain ⟨u, x, v, all⟩ : ∃ u x v, engine.watched.history turns = [u, x, v] := ⟨_, _, _, rfl⟩
  have seen : (engine.watched.history turns).map (fun v =>
      (v.outcome.state?.map fun s => (s.pid, s.status.startTicks), v.reads.length)) =
        [(some (7, some 100), 1), (some (7, none), 0), (some (7, some 200), 0)] := by
    decide +kernel
  simp only [all, List.map_cons, List.map_nil, List.cons.injEq, Prod.mk.injEq,
    Option.map_eq_some_iff, Engine.Outcome.state?_eq_some_iff, List.length_eq_zero_iff,
    and_true] at seen
  obtain ⟨⟨⟨s, first, here, start⟩, _⟩, ⟨_, silent⟩, ⟨s', last, there, start'⟩, silent'⟩ := seen
  have unread : Unread ([x] ++ [v]) s'.pid := by
    intro y member
    obtain rfl | rfl := by simpa using member
    · exact fun _ _ _ => silent
    · exact fun _ _ _ => silent'
  have apart : ¬ s.StartsWith s' := fun same => by
    have clash := same 100 200 start start'
    contradiction
  obtain ⟨_, _, carried⟩ :=
    Engine.identity_crosses_unknown_starts_only engine turns [u, x] v [] s' all last
  obtain ⟨_, taken, startless, _⟩ :=
    carried [] u [x] s rfl first (here.trans there.symm) unread
  exact ⟨u, x, v, s, s', all, first, last, here.trans there.symm, unread, apart, taken,
    startless.resolve_right apart⟩

/-- The second process is taken for the first, whose start is known to be another. -/
theorem identity_crosses_starts :
    let entry (n : Nat) := (engine.watched.run (turns.take n)).registry.get? 7
    let shows (s : ProcState) := (s.status.name, s.status.startTicks, s.identity.cmdline)
    (entry 1).map shows = some ("worker", some 100, some "one") ∧
      (entry 2).map shows = some ("worker", none, some "one") ∧
      (entry 3).map shows = some ("worker", some 200, some "one") ∧
      (engine.source.identity 7 (some 200, "two")).1 =
        .ok ⟨some "root", none, ["two"], some "two", none⟩ := by
  refine ⟨?_, ?_, ?_, rfl⟩ <;> decide +kernel

end Recycled

end ProcMeter
