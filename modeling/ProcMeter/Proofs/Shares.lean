import ProcMeter.Rate

/-! When a state has shares of CPU and memory, and which. The three kinds of CPU time are rated
alike, each from its own tick counts. -/
namespace ProcMeter

/-- Whole microseconds from `a` to `b`, truncated toward zero. -/
def Instant.wholeMicros (a b : Instant) : Int := (a.nanosBetween b).tdiv 1000

theorem Instant.microsBetween?_eq (a b : Instant) : a.microsBetween? b =
    if -0x8000000000000000 ≤ a.wholeMicros b ∧ a.wholeMicros b < 0x8000000000000000 then
      some (a.wholeMicros b) else none := rfl

/-- Counters as they are read, without shares. -/
structure Sample.Plain (sample : Sample) : Prop where
  cpu : ∀ kind, (sample.cpu.share kind).pct = none ∧ (sample.cpu.share kind).normPct = none
  memory : sample.memory.rss.pct = none

namespace Rate

variable {prev curr : Sample} {cpus : UInt64} {kind : CpuKind}

theorem elapsed?_isSome_iff :
    (elapsed? prev curr).isSome = true ↔
      1 ≤ prev.time.wholeMicros curr.time ∧
        prev.time.wholeMicros curr.time < 0x8000000000000000 := by
  simp only [elapsed?, Instant.microsBetween?_eq]
  split
  · rename_i found
    split at found
    · obtain rfl := Option.some.inj found
      split
      · simp only [Option.isSome_some, true_iff]
        omega
      · simp only [Option.isSome_none, Bool.false_eq_true, false_iff]
        omega
    · contradiction
  · rename_i missing
    split at missing
    · contradiction
    · simp only [Option.isSome_none, Bool.false_eq_true, false_iff]
      omega

theorem cpuUse_of_no_time (stopped : elapsed? prev curr = none) :
    cpuUse prev curr cpus = curr.cpu := by
  simp only [cpuUse, stopped]

theorem cpuUse_share {micros : UInt64} (passed : elapsed? prev curr = some micros) :
    (cpuUse prev curr cpus).share kind =
      cpuShare (prev.cpu.share kind).ticks (curr.cpu.share kind).ticks micros cpus := by
  simp only [cpuUse, passed]
  cases kind <;> rfl

theorem cpuShare_ticks (before now : Option UInt64) (micros cpus : UInt64) :
    (cpuShare before now micros cpus).ticks = now := by
  unfold cpuShare
  split <;> rfl

theorem cpuShare_isSome (before now : Option UInt64) (micros cpus : UInt64) :
    (cpuShare before now micros cpus).pct.isSome = (before.isSome && now.isSome) ∧
      (cpuShare before now micros cpus).normPct.isSome = (before.isSome && now.isSome) := by
  cases before with
  | none => exact ⟨rfl, rfl⟩
  | some p =>
    cases now with
    | none => exact ⟨rfl, rfl⟩
    | some c => exact ⟨rfl, rfl⟩

theorem cpuUse_ticks (prev curr : Sample) (cpus : UInt64) (kind : CpuKind) :
    ((cpuUse prev curr cpus).share kind).ticks = (curr.cpu.share kind).ticks := by
  cases time : elapsed? prev curr with
  | none => rw [cpuUse_of_no_time time]
  | some micros => rw [cpuUse_share time, cpuShare_ticks]

theorem memoryShare_isSome_iff (rss total : Option UInt64) :
    (memoryShare rss total).isSome = true ↔ rss.isSome = true ∧ ∃ n, total = some n ∧ 0 < n := by
  cases rss with
  | none => simp [memoryShare]
  | some r =>
    cases total with
    | none => simp [memoryShare]
    | some n =>
      simp only [memoryShare]
      split <;> simp_all

end Rate

namespace ProcState

variable {s p : ProcState} {prev : Option ProcState} {host : Host}

theorem ratedAgainst_same (same : p.sameProcess s.status = true) :
    s.ratedAgainst (some p) host =
      { s with
        cpu := Rate.cpuUse p.toSample s.toSample host.cpus
        memory := { s.memory with
          rss := { s.memory.rss with
            pct := Rate.memoryShare s.memory.rss.bytes host.totalMemory } } } := by
  simp only [ratedAgainst, same, if_true]

theorem ratedAgainst_other (other : ∀ p, prev = some p → p.sameProcess s.status = false) :
    s.ratedAgainst prev host = s := by
  cases prev with
  | none => rfl
  | some p => simp only [ratedAgainst, other p rfl, Bool.false_eq_true, if_false]

/-- Rating only fills in shares. -/
theorem ratedAgainst_keeps (s : ProcState) (prev : Option ProcState) (host : Host) :
    (s.ratedAgainst prev host).status = s.status ∧
      (s.ratedAgainst prev host).identity = s.identity ∧
      (s.ratedAgainst prev host).identityComplete = s.identityComplete ∧
      (s.ratedAgainst prev host).sampleTime = s.sampleTime ∧
      ∀ kind, ((s.ratedAgainst prev host).cpu.share kind).ticks = (s.cpu.share kind).ticks := by
  by_cases same : ∃ p, prev = some p ∧ p.sameProcess s.status = true
  · obtain ⟨p, rfl, same⟩ := same
    rw [ratedAgainst_same same]
    exact ⟨rfl, rfl, rfl, rfl, Rate.cpuUse_ticks _ _ _⟩
  · rw [ratedAgainst_other fun p found => by simpa using fun yes => same ⟨p, found, yes⟩]
    exact ⟨rfl, rfl, rfl, rfl, fun _ => rfl⟩

end ProcState

end ProcMeter
