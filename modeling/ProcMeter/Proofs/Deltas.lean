import Mathlib.Algebra.Order.Ring.Int
import ProcMeter.Proofs.Shares

/-! Shares of CPU time follow from how far the counters have moved. What the counters count from
and when the samples were taken has no part in them: only the differences have, and a difference
below zero counts as none. Leap seconds are an exception, as they do not move with a reading. -/
namespace ProcMeter

namespace Instant

theorem totalNanos_ofTotalNanos (n : Int) : (ofTotalNanos n).totalNanos = n := by
  have rest : 0 ≤ n.fmod 1_000_000_000 := Int.fmod_nonneg_of_pos n (by decide)
  rw [ofTotalNanos, totalNanos, Int.toNat_of_nonneg rest, Int.mul_comm]
  exact Int.mul_fdiv_add_fmod n 1_000_000_000

theorem inLeap_ofTotalNanos (n : Int) : (ofTotalNanos n).inLeap = false := by
  have rest : n.fmod 1_000_000_000 < 1_000_000_000 := Int.fmod_lt_of_pos n (by decide)
  have below : (n.fmod 1_000_000_000).toNat < 1_000_000_000 := by omega
  exact decide_eq_false (Nat.not_le.mpr below)

section
variable {a b : Instant} (first : a.inLeap = false) (second : b.inLeap = false)
include first

theorem addNanos_eq (n : Int) : a.addNanos n = ofTotalNanos (a.totalNanos + n) := by
  simp only [addNanos, first, Bool.false_eq_true, if_false]

include second

theorem nanosBetween_eq : a.nanosBetween b = b.totalNanos - a.totalNanos := by
  simp [nanosBetween, leapBetween, first, second]

/-- Readings outside of leap seconds stay as far apart when both are moved. -/
theorem wholeMicros_addNanos (n : Int) :
    (a.addNanos n).wholeMicros (b.addNanos n) = a.wholeMicros b := by
  rw [addNanos_eq first, addNanos_eq second, wholeMicros, wholeMicros,
    nanosBetween_eq (inLeap_ofTotalNanos _) (inLeap_ofTotalNanos _), totalNanos_ofTotalNanos,
    totalNanos_ofTotalNanos, Int.add_sub_add_right, nanosBetween_eq first second]

end

/-- From 03:00:60.5 to 03:01:00 it is half a second, and so it is an hour later. -/
example : wholeMicros ⟨10859, 1_500_000_000⟩ ⟨10860, 0⟩ = 500_000 ∧
    wholeMicros (addNanos ⟨10859, 1_500_000_000⟩ 3_600_000_000_000)
      (addNanos ⟨10860, 0⟩ 3_600_000_000_000) = 500_000 := by decide

end Instant

namespace Sample

def ticks? (s : Sample) (kind : CpuKind) : Option UInt64 := (s.cpu.share kind).ticks

/-- The same counts, taken at another time. -/
def shifted (s : Sample) (nanos : Int) : Sample := { s with time := s.time.addNanos nanos }

/-- The same sample of counters that are all higher by some amount. -/
def raised (s : Sample) (amount : CpuKind → UInt64) : Sample :=
  let raise (kind : CpuKind) (c : CpuShare) : CpuShare :=
    { c with ticks := c.ticks.map (· + amount kind) }
  { s with
    cpu := { s.cpu with
      user := raise .user s.cpu.user
      system := raise .system s.cpu.system
      total := raise .total s.cpu.total } }

/-- No counter overflows when it is raised. -/
def Holds (s : Sample) (amount : CpuKind → UInt64) : Prop :=
  ∀ kind n, s.ticks? kind = some n → n.toNat + (amount kind).toNat < 2 ^ 64

theorem raised_share (s : Sample) (amount : CpuKind → UInt64) (kind : CpuKind) :
    (s.raised amount).cpu.share kind =
      { s.cpu.share kind with ticks := (s.ticks? kind).map (· + amount kind) } := by
  cases kind <;> rfl

end Sample

namespace Rate

variable {prev curr : Sample} {amount : CpuKind → UInt64} {kind : CpuKind}

/-- Time of which shares can be taken: a microsecond at least, and no more of them than 64 bits
hold with a sign. -/
def Passes (prev curr : Sample) : Prop :=
  1 ≤ prev.time.wholeMicros curr.time ∧ prev.time.wholeMicros curr.time < 0x8000000000000000

instance (prev curr : Sample) : Decidable (Passes prev curr) := inferInstanceAs (Decidable (_ ∧ _))

/-- How far a counter has moved, where both samples have it. It never moves back. -/
def moved? (prev curr : Sample) (kind : CpuKind) : Option Nat :=
  match prev.ticks? kind, curr.ticks? kind with
  | some before, some now => some (now.toNat - before.toNat)
  | _, _ => none

def sharesOf (ticks : Nat) (micros : Int) (cpus : UInt64) : Float × Float :=
  shares (UInt64.ofNat ticks) (UInt64.ofNat micros.toNat) cpus

theorem elapsed?_of_passes (passes : Passes prev curr) :
    elapsed? prev curr = some (UInt64.ofNat (prev.time.wholeMicros curr.time).toNat) := by
  obtain ⟨forward, short⟩ := passes
  have micros : prev.time.microsBetween? curr.time = some (prev.time.wholeMicros curr.time) := by
    rw [Instant.microsBetween?_eq, if_pos ⟨by omega, short⟩]
  simp only [elapsed?, micros]
  rw [if_pos (by omega)]

theorem elapsed?_of_not_passes (stopped : ¬ Passes prev curr) : elapsed? prev curr = none := by
  rw [← Option.not_isSome_iff_eq_none, elapsed?_isSome_iff]
  exact stopped

theorem consumed_eq (before now : UInt64) :
    consumed before now = UInt64.ofNat (now.toNat - before.toNat) := by
  unfold consumed
  split
  · rename_i forward
    rw [← UInt64.toNat_sub_of_le _ _ forward, UInt64.ofNat_toNat]
  · rename_i back
    rw [UInt64.le_iff_toNat_le] at back
    rw [Nat.sub_eq_zero_of_le (by omega)]
    rfl

/-- At least one CPU is counted, however few are said to be there. -/
theorem shares_max (consumed micros cpus : UInt64) :
    shares consumed micros (max cpus 1) = shares consumed micros cpus := by
  have greater (a b : UInt64) : max a b = if a ≤ b then b else a := rfl
  have settled : max (max cpus 1) 1 = max cpus 1 := by
    rw [greater (max cpus 1), greater cpus]
    split
    · rw [if_pos (UInt64.le_refl 1)]
    · rfl
  rw [shares, shares, settled]

theorem cpuUse_of_passes (passes : Passes prev curr) (cpus : UInt64) (kind : CpuKind) :
    let rated := (moved? prev curr kind).map fun ticks =>
      sharesOf ticks (prev.time.wholeMicros curr.time) (max cpus 1)
    (cpuUse prev curr cpus).share kind =
      ⟨curr.ticks? kind, rated.map Prod.fst, rated.map Prod.snd⟩ := by
  intro rated
  rw [cpuUse_share (elapsed?_of_passes passes)]
  simp only [rated, moved?, Sample.ticks?, cpuShare]
  cases (prev.cpu.share kind).ticks with
  | none => rfl
  | some before =>
    cases (curr.cpu.share kind).ticks with
    | none => rfl
    | some now => simp only [Option.map_some, sharesOf, shares_max, consumed_eq]

theorem cpuUse_of_not_passes (stopped : ¬ Passes prev curr) (cpus : UInt64) :
    cpuUse prev curr cpus = curr.cpu :=
  cpuUse_of_no_time (elapsed?_of_not_passes stopped)

theorem moved?_isSome (prev curr : Sample) (kind : CpuKind) :
    (moved? prev curr kind).isSome = true ↔
      (prev.ticks? kind).isSome = true ∧ (curr.ticks? kind).isSome = true := by
  unfold moved?
  cases prev.ticks? kind <;> cases curr.ticks? kind <;> simp

/-! ### Two pairs of samples -/

def SameShares (a b : CpuShare) : Prop := a.pct = b.pct ∧ a.normPct = b.normPct

section
variable {prev' curr' : Sample} {kind' : CpuKind}

/-- Shares differ only where the time, the way of a counter or the shares that were read differ. -/
theorem sameShares_of_moved?
    (time : prev'.time.wholeMicros curr'.time = prev.time.wholeMicros curr.time)
    (moved : moved? prev' curr' kind' = moved? prev curr kind)
    (read : SameShares (curr'.cpu.share kind') (curr.cpu.share kind)) (cpus : UInt64) :
    SameShares ((cpuUse prev' curr' cpus).share kind') ((cpuUse prev curr cpus).share kind) := by
  by_cases passes : Passes prev curr
  · have passes' : Passes prev' curr' := by rwa [Passes, time]
    rw [cpuUse_of_passes passes, cpuUse_of_passes passes', time, moved]
    exact ⟨rfl, rfl⟩
  · have stopped : ¬ Passes prev' curr' := by rwa [Passes, time]
    rwa [cpuUse_of_not_passes passes, cpuUse_of_not_passes stopped]

end

theorem cpuUse_shifted (before : prev.time.inLeap = false) (now : curr.time.inLeap = false)
    (cpus : UInt64) (nanos : Int) :
    cpuUse (prev.shifted nanos) (curr.shifted nanos) cpus = cpuUse prev curr cpus := by
  have micros : (prev.shifted nanos).time.microsBetween? (curr.shifted nanos).time =
      prev.time.microsBetween? curr.time := by
    rw [Sample.shifted, Sample.shifted, Instant.microsBetween?_eq,
      Instant.wholeMicros_addNanos before now, Instant.microsBetween?_eq]
  have time : elapsed? (prev.shifted nanos) (curr.shifted nanos) = elapsed? prev curr := by
    rw [elapsed?, elapsed?, micros]
  rw [cpuUse, cpuUse, time]
  rfl

theorem moved?_raised (before : prev.Holds amount) (now : curr.Holds amount) (kind : CpuKind) :
    moved? (prev.raised amount) (curr.raised amount) kind = moved? prev curr kind := by
  have first := before kind
  have second := now kind
  simp only [moved?, Sample.ticks?, Sample.raised_share] at first second ⊢
  cases earlier : (prev.cpu.share kind).ticks with
  | none => rfl
  | some p =>
    cases later : (curr.cpu.share kind).ticks with
    | none => rfl
    | some c =>
      simp only [Option.map_some, UInt64.toNat_add]
      rw [Nat.mod_eq_of_lt (first p earlier), Nat.mod_eq_of_lt (second c later),
        Nat.add_sub_add_right]

theorem sameShares_raised (before : prev.Holds amount) (now : curr.Holds amount) (cpus : UInt64)
    (kind : CpuKind) :
    SameShares ((cpuUse (prev.raised amount) (curr.raised amount) cpus).share kind)
      ((cpuUse prev curr cpus).share kind) := by
  have read : SameShares ((curr.raised amount).cpu.share kind) (curr.cpu.share kind) := by
    rw [Sample.raised_share]
    exact ⟨rfl, rfl⟩
  exact sameShares_of_moved? (by rfl) (moved?_raised before now kind) read cpus

section
variable {still : Sample} {before now : UInt64}

/-- A counter that went back is taken for one that stood still. -/
theorem sameShares_of_back (first : prev.ticks? kind = some before)
    (second : curr.ticks? kind = some now) (back : now < before) (time : still.time = curr.time)
    (unmoved : still.cpu.share kind = { curr.cpu.share kind with ticks := some before })
    (cpus : UInt64) :
    SameShares ((cpuUse prev curr cpus).share kind) ((cpuUse prev still cpus).share kind) := by
  have stood : still.ticks? kind = some before := by rw [Sample.ticks?, unmoved]
  have moved : moved? prev curr kind = moved? prev still kind := by
    have none : now.toNat - before.toNat = 0 := by
      rw [UInt64.lt_iff_toNat_lt] at back
      omega
    simp only [moved?, first, second, stood, none, Nat.sub_self]
  have read : SameShares (curr.cpu.share kind) (still.cpu.share kind) := by
    rw [unmoved]
    exact ⟨rfl, rfl⟩
  exact sameShares_of_moved? (by rw [time]) moved read cpus

end

section
variable {prev' curr' : Sample}

/-- A kind of CPU time is rated by itself. -/
theorem cpuUse_share_congr (earlier : prev'.time = prev.time) (later : curr'.time = curr.time)
    (before : prev'.ticks? kind = prev.ticks? kind)
    (now : curr'.cpu.share kind = curr.cpu.share kind) (cpus : UInt64) :
    (cpuUse prev' curr' cpus).share kind = (cpuUse prev curr cpus).share kind := by
  have counted : curr'.ticks? kind = curr.ticks? kind := congrArg CpuShare.ticks now
  by_cases passes : Passes prev curr
  · have passes' : Passes prev' curr' := by rwa [Passes, earlier, later]
    rw [cpuUse_of_passes passes, cpuUse_of_passes passes', moved?, moved?, before, counted, earlier,
      later]
  · have stopped : ¬ Passes prev' curr' := by rwa [Passes, earlier, later]
    rw [cpuUse_of_not_passes passes, cpuUse_of_not_passes stopped, now]

end

/-- Shares are made of differences alone. Unless whole microseconds pass, as many as 64 bits hold,
the CPU use is as it was read. Otherwise a kind of CPU time has shares just when both samples have
its counter, and they are the same function, for all kinds, of how far the counter has moved
forward, of the microseconds and of the number of CPUs, which is at least one. So it makes no
difference to any share if the counters of both samples are raised by as much, and none at all if
both are taken earlier or later by as much, neither within a leap second; a counter that went back
is one that stood still; and no kind has a part in the shares of another. -/
theorem shares_follow_deltas (prev curr : Sample) (cpus : UInt64) :
    (¬ Passes prev curr → cpuUse prev curr cpus = curr.cpu) ∧
    (Passes prev curr → ∀ kind,
      let share := (cpuUse prev curr cpus).share kind
      let counted := (prev.ticks? kind).isSome = true ∧ (curr.ticks? kind).isSome = true
      share.ticks = curr.ticks? kind ∧
      (share.pct.isSome = true ↔ counted) ∧ (share.normPct.isSome = true ↔ counted) ∧
      ∀ before now, prev.ticks? kind = some before → curr.ticks? kind = some now →
        let rated := sharesOf (now.toNat - before.toNat) (prev.time.wholeMicros curr.time)
          (max cpus 1)
        share.pct = some rated.1 ∧ share.normPct = some rated.2) ∧
    (∀ amount, prev.Holds amount → curr.Holds amount → ∀ kind,
      SameShares ((cpuUse (prev.raised amount) (curr.raised amount) cpus).share kind)
        ((cpuUse prev curr cpus).share kind)) ∧
    (prev.time.inLeap = false → curr.time.inLeap = false → ∀ nanos,
      cpuUse (prev.shifted nanos) (curr.shifted nanos) cpus = cpuUse prev curr cpus) ∧
    (∀ kind before now still, prev.ticks? kind = some before → curr.ticks? kind = some now →
      now < before → still.time = curr.time →
      still.cpu.share kind = { curr.cpu.share kind with ticks := some before } →
        SameShares ((cpuUse prev curr cpus).share kind) ((cpuUse prev still cpus).share kind)) ∧
    (∀ kind prev' curr', prev'.time = prev.time → curr'.time = curr.time →
      prev'.ticks? kind = prev.ticks? kind → curr'.cpu.share kind = curr.cpu.share kind →
        (cpuUse prev' curr' cpus).share kind = (cpuUse prev curr cpus).share kind) := by
  refine ⟨fun stopped => cpuUse_of_not_passes stopped cpus, ?_, ?_, ?_, ?_, ?_⟩
  · intro passes kind
    rw [cpuUse_of_passes passes, ← moved?_isSome]
    refine ⟨rfl, ?_, ?_, fun before now first second => ?_⟩
    · rw [Option.isSome_map, Option.isSome_map]
    · rw [Option.isSome_map, Option.isSome_map]
    · have moved : moved? prev curr kind = some (now.toNat - before.toNat) := by
        simp only [moved?, first, second]
      rw [moved]
      exact ⟨rfl, rfl⟩
  · intro amount before now kind
    exact sameShares_raised before now cpus kind
  · intro before now nanos
    exact cpuUse_shifted before now cpus nanos
  · intro kind before now still first second back time unmoved
    exact sameShares_of_back first second back time unmoved cpus
  · intro kind prev' curr' earlier later before now
    exact cpuUse_share_congr earlier later before now cpus

def counting (user system total : Option UInt64) (time : Instant) : Sample where
  cpu := ⟨⟨user, none, none⟩, ⟨system, none, none⟩, ⟨total, none, none⟩, none⟩
  memory := ⟨none, ⟨none, none⟩, none⟩
  time := time

/-- One counter went back, one is new and one moved on, in a little less than a second. -/
theorem restarted_shares_follow_deltas :
    let prev := counting (some 90) none (some 100) ⟨10, 500⟩
    let curr := counting (some 40) (some 5) (some 130) ⟨11, 0⟩
    let still := counting (some 90) (some 5) (some 130) ⟨11, 0⟩
    let amount : CpuKind → UInt64 := fun _ => 7
    ¬ Passes curr prev ∧ cpuUse curr prev 0 = prev.cpu ∧
      Passes prev curr ∧
      ((cpuUse prev curr 0).share .total).pct = some (sharesOf 30 999999 1).1 ∧
      ((cpuUse prev curr 0).share .system).pct = none ∧
      prev.Holds amount ∧ curr.Holds amount ∧
      SameShares ((cpuUse (prev.raised amount) (curr.raised amount) 0).share .total)
        ((cpuUse prev curr 0).share .total) ∧
      prev.time.inLeap = false ∧ curr.time.inLeap = false ∧
      cpuUse (prev.shifted (-3_600_000_000_000)) (curr.shifted (-3_600_000_000_000)) 0 =
        cpuUse prev curr 0 ∧
      SameShares ((cpuUse prev curr 0).share .user) ((cpuUse prev still 0).share .user) ∧
      (cpuUse prev still 0).share .total = (cpuUse prev curr 0).share .total := by
  intro prev curr still amount
  have back : ¬ Passes curr prev := by decide
  have passes : Passes prev curr := by decide
  have holds : prev.Holds amount ∧ curr.Holds amount := by
    constructor <;> intro kind n counted <;> cases kind <;> cases counted <;> decide
  obtain ⟨_, given, raised, shifted, reset, apart⟩ := shares_follow_deltas prev curr 0
  have micros : prev.time.wholeMicros curr.time = 999999 := by decide
  have ticks : (130 : UInt64).toNat - (100 : UInt64).toNat = 30 := by decide
  have cpus : max (0 : UInt64) 1 = 1 := by decide
  obtain ⟨_, _, _, total⟩ := given passes .total
  have pct := (total 100 130 rfl rfl).1
  rw [ticks, micros, cpus] at pct
  obtain ⟨_, system, _, _⟩ := given passes .system
  refine ⟨back, (shares_follow_deltas curr prev 0).1 back, passes, pct, ?_,
    holds.1, holds.2, raised amount holds.1 holds.2 .total, rfl, rfl, shifted rfl rfl _,
    reset .user 90 40 still rfl rfl (by decide) rfl rfl, apart .total prev still rfl rfl rfl rfl⟩
  rw [← Option.not_isSome_iff_eq_none, system]
  decide

/-- A leap second is lost when it is moved: from 23:59:60 to midnight no time passes, and from an
hour after the one to an hour after the other a second does. -/
theorem leap_second_shift_changes_shares :
    let prev := counting (some 0) (some 0) (some 0) ⟨1483228799, 1_000_000_000⟩
    let curr := counting (some 500) (some 500) (some 1000) ⟨1483228800, 0⟩
    let later : Int := 3_600_000_000_000
    prev.time.inLeap = true ∧
      ((cpuUse prev curr 1).share .total).pct = none ∧
      ((cpuUse (prev.shifted later) (curr.shifted later) 1).share .total).pct =
        some (sharesOf 1000 1_000_000 1).1 ∧
      ¬ ∀ (prev curr : Sample) (cpus : UInt64) (nanos : Int) (kind : CpuKind),
        SameShares ((cpuUse (prev.shifted nanos) (curr.shifted nanos) cpus).share kind)
          ((cpuUse prev curr cpus).share kind) := by
  intro prev curr later
  have stopped : ((cpuUse prev curr 1).share .total).pct = none := by
    rw [cpuUse_of_not_passes (by decide)]
    rfl
  have passed : ((cpuUse (prev.shifted later) (curr.shifted later) 1).share .total).pct =
      some (sharesOf 1000 1_000_000 1).1 := by
    have passes : Passes (prev.shifted later) (curr.shifted later) := by decide
    have moved : moved? (prev.shifted later) (curr.shifted later) .total = some 1000 := by decide
    have micros : (prev.shifted later).time.wholeMicros (curr.shifted later).time = 1_000_000 := by
      decide
    have cpus : max (1 : UInt64) 1 = 1 := by decide
    simp only [cpuUse_of_passes passes, moved, micros, cpus, Option.map_some]
  refine ⟨rfl, stopped, passed, fun unmoved => ?_⟩
  have same := (unmoved prev curr 1 later .total).1
  have present := passed.symm.trans (same.trans stopped)
  exact Option.some_ne_none _ present

end Rate

end ProcMeter
