import ProcMeter.Proofs.Sampling

/-! Shares are taken against the entry that the registry has of the same process when the process
is sampled. With such an entry each share is there exactly when the counts it takes are there;
without one there are no shares. -/
namespace ProcMeter

variable {host : Host} {prev : Option ProcState} {status : Status} {sample : Sample}
  {s p : ProcState} {kind : CpuKind}

/-- An earlier state of the process that a status shows. -/
def Baseline (prev : Option ProcState) (status : Status) (p : ProcState) : Prop :=
  prev = some p ∧ p.sameProcess status = true

/-- There is what it takes for a share of CPU time. -/
def CpuDue (prev : Option ProcState) (status : Status) (sample : Sample) (kind : CpuKind) : Prop :=
  ∃ p, Baseline prev status p ∧ (p.cpu.share kind).ticks.isSome = true ∧
    (sample.cpu.share kind).ticks.isSome = true ∧
    1 ≤ p.sampleTime.wholeMicros sample.time ∧
    p.sampleTime.wholeMicros sample.time < 0x8000000000000000

/-- There is what it takes for a share of memory, whatever the time. -/
def MemoryDue (host : Host) (prev : Option ProcState) (status : Status) (sample : Sample) : Prop :=
  ∃ p, Baseline prev status p ∧ sample.memory.rss.bytes.isSome = true ∧
    ∃ n, host.totalMemory = some n ∧ 0 < n

/-- Another process than that of the entry, by its name or by the time of its start. -/
def Replaced (p : ProcState) (status : Status) : Prop :=
  p.status.name ≠ status.name ∨
    ∃ a b, p.status.startTicks = some a ∧ status.startTicks = some b ∧ a ≠ b

/-- A state without shares. -/
structure Unrated (s : ProcState) : Prop where
  pct : ∀ kind, (s.cpu.share kind).pct = none
  normPct : ∀ kind, (s.cpu.share kind).normPct = none
  memory : s.memory.rss.pct = none

/-- A state has the shares that are due to it and no others. -/
structure Rated (host : Host) (prev : Option ProcState) (status : Status) (sample : Sample)
    (s : ProcState) : Prop where
  pct : ∀ kind, (s.cpu.share kind).pct.isSome = true ↔ CpuDue prev status sample kind
  normPct : ∀ kind, (s.cpu.share kind).normPct.isSome = true ↔ CpuDue prev status sample kind
  memory : s.memory.rss.pct.isSome = true ↔ MemoryDue host prev status sample
  /-- The values are those that come of the counters of the entry and of the sample. -/
  values : ∀ p, Baseline prev status p →
    (∀ kind, (s.cpu.share kind).pct =
        ((Rate.cpuUse p.toSample sample host.cpus).share kind).pct ∧
      (s.cpu.share kind).normPct =
        ((Rate.cpuUse p.toSample sample host.cpus).share kind).normPct) ∧
    s.memory.rss.pct = Rate.memoryShare sample.memory.rss.bytes host.totalMemory
  first : prev = none → Unrated s
  replaced : ∀ p, prev = some p → Replaced p status → Unrated s

theorem Replaced.not_same (replaced : Replaced p status) : p.sameProcess status = false := by
  rw [Bool.eq_false_iff, Ne, ProcState.sameProcess_iff]
  rintro ⟨_, name, start⟩
  obtain renamed | ⟨a, b, here, there, differ⟩ := replaced
  · exact renamed name
  · exact differ (start a b here there)

theorem Baseline.unique {q : ProcState} (here : Baseline prev status p)
    (there : Baseline prev status q) : p = q :=
  Option.some.inj (here.1.symm.trans there.1)

theorem CpuDue.iff_of_baseline (baseline : Baseline prev status p) :
    CpuDue prev status sample kind ↔
      (p.cpu.share kind).ticks.isSome = true ∧ (sample.cpu.share kind).ticks.isSome = true ∧
        (Rate.elapsed? p.toSample sample).isSome = true := by
  rw [Rate.elapsed?_isSome_iff]
  constructor
  · rintro ⟨q, there, due⟩
    obtain rfl := there.unique baseline
    exact due
  · exact fun due => ⟨p, baseline, due⟩

/-- The shares of a plain sample are due to it. -/
theorem Rate.cpuUse_isSome_iff (plain : sample.Plain) (baseline : Baseline prev status p)
    (cpus : UInt64) :
    ((((Rate.cpuUse p.toSample sample cpus).share kind).pct.isSome = true) ↔
        CpuDue prev status sample kind) ∧
      ((((Rate.cpuUse p.toSample sample cpus).share kind).normPct.isSome = true) ↔
        CpuDue prev status sample kind) := by
  rw [CpuDue.iff_of_baseline baseline]
  cases time : Rate.elapsed? p.toSample sample with
  | none =>
    rw [Rate.cpuUse_of_no_time time, (plain.cpu kind).1, (plain.cpu kind).2]
    simp
  | some micros =>
    have shares := Rate.cpuShare_isSome (p.toSample.cpu.share kind).ticks
      (sample.cpu.share kind).ticks micros cpus
    rw [Rate.cpuUse_share time, shares.1, shares.2]
    simp [ProcState.toSample]

theorem memoryDue_iff_of_baseline (baseline : Baseline prev status p) :
    (Rate.memoryShare sample.memory.rss.bytes host.totalMemory).isSome = true ↔
      MemoryDue host prev status sample := by
  rw [Rate.memoryShare_isSome_iff]
  exact ⟨fun due => ⟨p, baseline, due⟩, fun ⟨_, _, due⟩ => due⟩

theorem Sample.Plain.unrated (plain : s.toSample.Plain) : Unrated s where
  pct kind := (plain.cpu kind).1
  normPct kind := (plain.cpu kind).2
  memory := plain.memory

/-- Without an earlier state no shares are due. -/
theorem Unrated.rated (unrated : Unrated s) (unknown : ∀ p, ¬ Baseline prev status p) :
    Rated host prev status sample s where
  pct kind := by
    simp only [unrated.pct, Option.isSome_none, Bool.false_eq_true, false_iff]
    exact fun ⟨p, baseline, _⟩ => unknown p baseline
  normPct kind := by
    simp only [unrated.normPct, Option.isSome_none, Bool.false_eq_true, false_iff]
    exact fun ⟨p, baseline, _⟩ => unknown p baseline
  memory := by
    simp only [unrated.memory, Option.isSome_none, Bool.false_eq_true, false_iff]
    exact fun ⟨p, baseline, _⟩ => unknown p baseline
  values p baseline := absurd baseline (unknown p)
  first _ := unrated
  replaced _ _ _ := unrated

/-- The state that is made of a plain sample has the shares that are due to it. -/
theorem Sample.Plain.rated (plain : sample.Plain) (made : s.toSample = sample)
    (shows : s.status = status) (prev : Option ProcState) (host : Host) :
    Rated host prev status sample (s.ratedAgainst prev host) := by
  subst made shows
  by_cases known : ∃ p, Baseline prev s.status p
  · obtain ⟨p, baseline⟩ := known
    obtain ⟨rfl, same⟩ := id baseline
    rw [ProcState.ratedAgainst_same same]
    constructor
    · exact fun kind => (Rate.cpuUse_isSome_iff plain baseline host.cpus).1
    · exact fun kind => (Rate.cpuUse_isSome_iff plain baseline host.cpus).2
    · change (Rate.memoryShare s.toSample.memory.rss.bytes host.totalMemory).isSome = true ↔ _
      exact memoryDue_iff_of_baseline baseline
    · intro q there
      obtain rfl := baseline.unique there
      exact ⟨fun kind => ⟨rfl, rfl⟩, rfl⟩
    · intro first
      contradiction
    · intro q found replaced
      obtain rfl := Option.some.inj found
      exact absurd same (by simp [replaced.not_same])
  · have unknown : ∀ p, ¬ Baseline prev s.status p := fun p baseline => known ⟨p, baseline⟩
    have other : ∀ p, prev = some p → p.sameProcess s.status = false := by
      intro p found
      simpa using fun same => unknown p ⟨found, same⟩
    rw [ProcState.ratedAgainst_other other]
    exact plain.unrated.rated unknown

namespace Engine

theorem shown_share (rules : Rules) (s : ProcState) (kind : CpuKind) :
    ((shown rules s).cpu.share kind).pct = (s.cpu.share kind).pct ∧
      ((shown rules s).cpu.share kind).normPct = (s.cpu.share kind).normPct := by
  unfold shown
  split
  · exact ⟨rfl, rfl⟩
  · cases kind <;> exact ⟨rfl, rfl⟩

theorem shown_memory (rules : Rules) (s : ProcState) : (shown rules s).memory = s.memory := by
  unfold shown
  split <;> rfl

end Engine

theorem Unrated.shown (unrated : Unrated s) (rules : Rules) : Unrated (Engine.shown rules s) where
  pct kind := (Engine.shown_share rules s kind).1.trans (unrated.pct kind)
  normPct kind := (Engine.shown_share rules s kind).2.trans (unrated.normPct kind)
  memory := by rw [Engine.shown_memory, unrated.memory]

/-- Leaving out the ticks leaves the shares. -/
theorem Rated.shown (rated : Rated host prev status sample s) (rules : Rules) :
    Rated host prev status sample (Engine.shown rules s) where
  pct kind := by rw [(Engine.shown_share rules s kind).1, rated.pct]
  normPct kind := by rw [(Engine.shown_share rules s kind).2, rated.normPct]
  memory := by rw [Engine.shown_memory, rated.memory]
  values p baseline := by
    simp only [Engine.shown_share, Engine.shown_memory]
    exact rated.values p baseline
  first none := (rated.first none).shown rules
  replaced p found replaced := (rated.replaced p found replaced).shown rules

namespace Engine

variable {σ : Type} {e : Engine (StateM σ)} {v : Visit σ} {x : ProcState}

/-- Samples are counters only; shares are never read. -/
def ReadsPlain (e : Engine (StateM σ)) : Prop :=
  ∀ {pid : Pid} {w w₁ : σ} {sample : Sample},
    e.source.sample pid w = (.ok sample, w₁) → sample.Plain

/-- A visit yields `s`, and `x` has the shares that are due by the entry from before the visit. -/
def Rates (e : Engine (StateM σ)) (v : Visit σ) (s x : ProcState) : Prop :=
  e.Yields v s ∧ ∃ status sample w, e.Reads v status sample w ∧ status = s.status ∧
    s.sampleTime = sample.time ∧
    (∀ kind, (s.cpu.share kind).ticks = (sample.cpu.share kind).ticks) ∧
    Rated v.host (v.registry.get? s.pid) status sample x

theorem Yields.rates (plain : e.ReadsPlain) (yields : e.Yields v s) : e.Rates v s s := by
  refine ⟨yields, ?_⟩
  obtain ⟨status, sample, identity, complete, w, w₁, reads, _, rfl⟩ := yields
  refine ⟨status, sample, w, reads, stateFrom_status.symm, stateFrom_time, stateFrom_ticks, ?_⟩
  obtain ⟨_, _, _, read⟩ := reads
  rw [ProcState.pid, stateFrom_status]
  apply (plain read).rated
  · rfl
  · rfl

theorem Rates.shown (rates : e.Rates v s s) : e.Rates v s (shown e.rules s) := by
  obtain ⟨yields, status, sample, w, reads, shows, time, ticks, rated⟩ := rates
  exact ⟨yields, status, sample, w, reads, shows, time, ticks, rated.shown e.rules⟩

/-- Every state that a call reports or the registry holds has exactly the shares that are due to
it. It comes of a visit that sampled the process, and the shares are taken against the entry that
the process had just before that visit; the registry keeps the counts as they were read, so that
they serve the next visit. -/
theorem shares_follow_baseline (e : Engine (StateM σ)) (plain : e.ReadsPlain)
    (turns : List (Turn σ)) :
    (∀ t, ∀ x ∈ (e.reply (e.run turns) t).states,
      ∃ v ∈ e.visits (e.run turns) t, ∃ s, x = shown e.rules s ∧ e.Rates v s x) ∧
    (∀ p s, (e.run turns).registry.get? p = some s →
      ∃ before t later, turns = before ++ t :: later ∧
        ∃ v ∈ e.visits (e.run before) t, s.pid = p ∧ e.Rates v s s) := by
  constructor
  · intro t x reports
    obtain ⟨v, member, s, sampled, rfl⟩ := mem_reply_states reports
    have yields := ((e.visits_chained _ t).made member).outcome_eq_sampled_iff.mp sampled
    exact ⟨v, member, s, rfl, (yields.rates plain).shown⟩
  · intro p s found
    obtain ⟨before, t, later, split, v, member, sampled, same⟩ := run_get?_sampled found
    have yields := ((e.visits_chained _ t).made member).outcome_eq_sampled_iff.mp sampled
    exact ⟨before, t, later, split, v, member, same, yields.rates plain⟩

theorem solo_reads_plain : Solo.engine.ReadsPlain := by
  intro pid w w₁ sample read
  cases w with
  | none =>
    have failed : Except.error (SampleError.notFound pid) = Except.ok sample :=
      congrArg Prod.fst read
    contradiction
  | some counters =>
    obtain rfl := Except.ok.inj (congrArg Prod.fst read)
    exact ⟨fun kind => by cases kind <;> exact ⟨rfl, rfl⟩, rfl⟩

/-- Two seconds of one process: the second state has shares, against the first. -/
theorem solo_shares_follow_baseline :
    Solo.engine.ReadsPlain ∧
      ∃ s, (Solo.engine.run [⟨.cycle, .running 5 1⟩, ⟨.cycle, .running 9 2⟩]).registry.get? 7 =
          some s ∧ (s.cpu.share .user).pct.isSome = true ∧
        ∃ before t later, [⟨.cycle, .running 5 1⟩, ⟨.cycle, .running 9 2⟩] = before ++ t :: later ∧
          ∃ v ∈ Solo.engine.visits (Solo.engine.run before) t, s.pid = 7 ∧
            Solo.engine.Rates v s s := by
  refine ⟨solo_reads_plain, ?_⟩
  have shares : ((Solo.engine.run [⟨.cycle, .running 5 1⟩, ⟨.cycle, .running 9 2⟩]).registry.get?
      7).map (fun s => (s.cpu.share .user).pct.isSome) = some true := by decide +kernel
  obtain ⟨s, found, share⟩ := Option.map_eq_some_iff.mp shares
  exact ⟨s, found, share, (shares_follow_baseline Solo.engine solo_reads_plain _).2 7 s found⟩

end Engine

end ProcMeter
