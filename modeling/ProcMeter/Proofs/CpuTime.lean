import ProcMeter.Proofs.Deltas
import ProcMeter.Proofs.NameBytes
import ProcMeter.Proofs.NulTexts

/-! CPU time in milliseconds, for any counters that a stat line can hold. A product that would not
fit a word stands at the greatest word, so times are a little short there, but never in another
order. At two ticks a second or more, what is left after the division is at most half a word, and
the total of two times is their sum. -/
namespace ProcMeter.Procfs

variable {ticks more rate : UInt64}

/-! ### In words -/

/-- The quotient of two words; there is none by zero. -/
def quotient? (a b : UInt64) : Option UInt64 := if b = 0 then none else some (a / b)

/-- The product of two words, or the greatest word where the product is none. -/
def boundedProduct (a b : UInt64) : UInt64 :=
  if a.toNat * b.toNat < 2 ^ 64 then a * b else 0xFFFFFFFFFFFFFFFF

theorem toNat_boundedProduct (a b : UInt64) :
    (boundedProduct a b).toNat = min (a.toNat * b.toNat) 0xFFFFFFFFFFFFFFFF := by
  rw [boundedProduct]
  split
  · rename_i fits
    rw [UInt64.toNat_mul, Nat.mod_eq_of_lt fits]
    omega
  · rename_i overflows
    rw [Nat.min_eq_right (by omega)]
    rfl

theorem toNat_max_one (rate : UInt64) : (max rate 1).toNat = max rate.toNat 1 := by
  have greater : max rate 1 = if rate ≤ 1 then 1 else rate := rfl
  rw [greater]
  split
  · rename_i small
    rw [UInt64.le_iff_toNat_le] at small
    exact (Nat.max_eq_right small).symm
  · rename_i large
    rw [UInt64.le_iff_toNat_le] at large
    rw [Nat.max_eq_left (by omega)]

theorem toNat_millisOfTicks (ticks rate : UInt64) :
    (millisOfTicks ticks rate).toNat =
      min (ticks.toNat * 1000) 0xFFFFFFFFFFFFFFFF / max rate.toNat 1 := by
  have bounded := Nat.div_le_self (min (ticks.toNat * 1000) 0xFFFFFFFFFFFFFFFF) (max rate.toNat 1)
  rw [millisOfTicks, UInt64.toNat_ofNat', Nat.mod_eq_of_lt (by omega)]

/-- Milliseconds are computed in words, without a division by zero. -/
theorem quotient?_boundedProduct (ticks rate : UInt64) :
    quotient? (boundedProduct ticks 1000) (max rate 1) = some (millisOfTicks ticks rate) := by
  have positive : max rate 1 ≠ 0 := by
    intro zero
    have clash := toNat_max_one rate
    rw [zero, UInt64.toNat_zero] at clash
    omega
  rw [quotient?, if_neg positive, Option.some.injEq, ← UInt64.toNat_inj, UInt64.toNat_div,
    toNat_boundedProduct, toNat_max_one, toNat_millisOfTicks]
  rfl

/-! ### Bounds and order -/

theorem toNat_millisOfTicks_of_fits (fits : ticks.toNat * 1000 < 2 ^ 64) (rate : UInt64) :
    (millisOfTicks ticks rate).toNat = ticks.toNat * 1000 / max rate.toNat 1 := by
  rw [toNat_millisOfTicks, Nat.min_eq_left (by omega)]

theorem toNat_millisOfTicks_le (ticks rate : UInt64) :
    (millisOfTicks ticks rate).toNat ≤ ticks.toNat * 1000 / max rate.toNat 1 := by
  rw [toNat_millisOfTicks]
  exact Nat.div_le_div_right (Nat.min_le_left _ _)

theorem millisOfTicks_mono (fewer : ticks ≤ more) (rate : UInt64) :
    millisOfTicks ticks rate ≤ millisOfTicks more rate := by
  rw [UInt64.le_iff_toNat_le] at fewer ⊢
  rw [toNat_millisOfTicks, toNat_millisOfTicks]
  apply Nat.div_le_div_right
  omega

theorem toNat_millisOfTicks_le_half (fast : 2 ≤ rate) (ticks : UInt64) :
    (millisOfTicks ticks rate).toNat ≤ 0x7FFFFFFFFFFFFFFF := by
  rw [UInt64.le_iff_toNat_le] at fast
  have divisor : 2 ≤ max rate.toNat 1 := Nat.le_trans fast (Nat.le_max_left _ _)
  rw [toNat_millisOfTicks]
  exact Nat.div_le_div (Nat.min_le_right _ _) divisor (by decide)

/-! ### Stat lines -/

namespace StatLine

/-- The time that a process spent in its own code. -/
def user (line : StatLine) (rate : UInt64) : UInt64 := millisOfTicks line.utime rate

/-- The time that the system spent for a process. -/
def system (line : StatLine) (rate : UInt64) : UInt64 := millisOfTicks line.stime rate

theorem user_add_system_lt (fast : 2 ≤ rate) (line : StatLine) :
    (line.user rate).toNat + (line.system rate).toNat < 2 ^ 64 := by
  have user := toNat_millisOfTicks_le_half fast line.utime
  have system := toNat_millisOfTicks_le_half fast line.stime
  rw [StatLine.user, StatLine.system]
  omega

theorem toNat_user_add_system (fast : 2 ≤ rate) (line : StatLine) :
    (line.user rate + line.system rate).toNat =
      (line.user rate).toNat + (line.system rate).toNat := by
  rw [UInt64.toNat_add, Nat.mod_eq_of_lt (line.user_add_system_lt fast)]

/-- Both counters at the end of their range. -/
def longest : StatLine := ⟨"", 'S', 0, 0, 0xFFFFFFFFFFFFFFFF, 0xFFFFFFFFFFFFFFFF, 0⟩

theorem exists_text_of_longest : ∃ content, parse? content = some longest := by
  have letter : IsFieldChar 'S' := ⟨by decide, by decide⟩
  have zero : IsField ['0'] := ⟨by decide, List.forall_mem_singleton.2 ⟨rfl, by decide⟩⟩
  refine ⟨longest.render [] (fun _ => ['0']) [], ?_⟩
  exact parse?_render letter (fun _ => zero) List.not_mem_nil List.not_mem_nil (by simp)

/-- At a slower rate two times can come to more than a word. -/
theorem sums_fit_iff (rate : UInt64) :
    (∀ content line, parse? content = some line →
      (line.user rate).toNat + (line.system rate).toNat < 2 ^ 64) ↔ 2 ≤ rate := by
  constructor
  · intro fits
    obtain ⟨content, accepted⟩ := exists_text_of_longest
    have bound := fits content longest accepted
    rw [user, system, toNat_millisOfTicks, toNat_millisOfTicks] at bound
    by_contra slow
    rw [UInt64.le_iff_toNat_le] at slow
    have divisor : max rate.toNat 1 = 1 :=
      Nat.max_eq_right (Nat.le_of_lt_succ (Nat.lt_of_not_le slow))
    rw [divisor] at bound
    exact absurd bound (by decide)
  · intro fast content line _
    exact line.user_add_system_lt fast

end StatLine

/-! ### Samples -/

namespace Reader

variable {σ : Type} {r : Reader (StateM σ)} {pid : Pid} {w : σ} {content : List Char}
  {line line' : StatLine}

/-- A sampling finds this text in the stat file of its process, and takes it for this line; and it
finds a statm line. -/
structure Finds (r : Reader (StateM σ)) (pid : Pid) (w : σ) (content : List Char)
    (line : StatLine) : Prop where
  text : (r.text pid "stat" (r.surroundings.now w).2).1 = .ok content
  accepted : StatLine.parse? content = some line
  sized : ∃ sizes, (r.readStatm pid (r.readStat pid (r.surroundings.now w).2).2).1 = .ok sizes

theorem Finds.sample (finds : r.Finds pid w content line) :
    ∃ sample, (r.sample pid w).1 = .ok sample ∧ sample.cpu = cpuOf r.bootTime r.units line := by
  obtain ⟨text, accepted, sizes, sized⟩ := finds
  have read : (r.readStat pid (r.surroundings.now w).2).1 = .ok line := by
    simp only [readStat, Engine.bind_apply, text, accepted]
    rfl
  refine ⟨⟨cpuOf r.bootTime r.units line, memoryOf sizes, (r.surroundings.now w).1⟩, ?_, rfl⟩
  simp only [Reader.sample, Engine.bind_apply, read, sized]
  rfl

theorem cpuOf_mono {boot boot' : Option UInt64} {units units' : Units}
    (fast : 2 ≤ units.ticksPerSecond) (same : units'.ticksPerSecond = units.ticksPerSecond)
    (user : line.utime ≤ line'.utime) (system : line.stime ≤ line'.stime) (kind : CpuKind) :
    ∃ a b, ((cpuOf boot units line).share kind).ticks = some a ∧
      ((cpuOf boot' units' line').share kind).ticks = some b ∧ a ≤ b := by
  have longerUser := millisOfTicks_mono user units.ticksPerSecond
  have longerSystem := millisOfTicks_mono system units.ticksPerSecond
  cases kind with
  | user =>
    refine ⟨_, _, rfl, rfl, ?_⟩
    rw [same]
    exact longerUser
  | system =>
    refine ⟨_, _, rfl, rfl, ?_⟩
    rw [same]
    exact longerSystem
  | total =>
    refine ⟨_, _, rfl, rfl, ?_⟩
    have first := line.toNat_user_add_system fast
    have second := line'.toNat_user_add_system fast
    rw [UInt64.le_iff_toNat_le] at longerUser longerSystem ⊢
    rw [same]
    rw [StatLine.user, StatLine.system] at first second
    omega

end Reader

/-- Times never overflow, and never go back. Milliseconds are the whole part of what the ticks come
to, without a division by zero, and no more than that where the product does not fit a word; more
ticks are never fewer milliseconds. Two times of any stat line that is accepted fit together in a
word just when there are two ticks a second or more, and then the total of a sample is the sum of
the others; and of two samples the one whose line has no lower counters has no lower times. -/
theorem ticks_add_up {σ : Type} :
    (∀ ticks rate : UInt64,
      quotient? (boundedProduct ticks 1000) (max rate 1) = some (millisOfTicks ticks rate) ∧
      (ticks.toNat * 1000 < 2 ^ 64 →
        (millisOfTicks ticks rate).toNat = ticks.toNat * 1000 / max rate.toNat 1) ∧
      (millisOfTicks ticks rate).toNat ≤ ticks.toNat * 1000 / max rate.toNat 1) ∧
    (∀ ticks more rate : UInt64, ticks ≤ more →
      millisOfTicks ticks rate ≤ millisOfTicks more rate) ∧
    (∀ rate : UInt64, (∀ content line, StatLine.parse? content = some line →
      (line.user rate).toNat + (line.system rate).toNat < 2 ^ 64) ↔ 2 ≤ rate) ∧
    (∀ (r : Reader (StateM σ)) pid w content line, 2 ≤ r.units.ticksPerSecond →
      r.Finds pid w content line →
        let user := line.user r.units.ticksPerSecond
        let system := line.system r.units.ticksPerSecond
        ∃ sample total, (r.sample pid w).1 = .ok sample ∧
          sample.ticks? .user = some user ∧ sample.ticks? .system = some system ∧
          sample.ticks? .total = some total ∧ total.toNat = user.toNat + system.toNat) ∧
    ∀ (r r' : Reader (StateM σ)) pid w content line pid' w' content' line',
      2 ≤ r.units.ticksPerSecond → r'.units.ticksPerSecond = r.units.ticksPerSecond →
      r.Finds pid w content line → r'.Finds pid' w' content' line' →
      line.utime ≤ line'.utime → line.stime ≤ line'.stime →
        ∃ sample sample', (r.sample pid w).1 = .ok sample ∧
          (r'.sample pid' w').1 = .ok sample' ∧
          ∀ kind, ∃ a b, sample.ticks? kind = some a ∧ sample'.ticks? kind = some b ∧ a ≤ b := by
  refine ⟨?_, ?_, StatLine.sums_fit_iff, ?_, ?_⟩
  · intro ticks rate
    exact ⟨quotient?_boundedProduct ticks rate, fun fits => toNat_millisOfTicks_of_fits fits rate,
      toNat_millisOfTicks_le ticks rate⟩
  · intro ticks more rate fewer
    exact millisOfTicks_mono fewer rate
  · intro r pid w content line fast finds user system
    obtain ⟨sample, made, counted⟩ := finds.sample
    refine ⟨sample, user + system, made, ?_, ?_, ?_, line.toNat_user_add_system fast⟩
    · rw [Sample.ticks?, counted]
      rfl
    · rw [Sample.ticks?, counted]
      rfl
    · rw [Sample.ticks?, counted]
      rfl
  · intro r r' pid w content line pid' w' content' line' fast same finds finds' user system
    obtain ⟨sample, made, counted⟩ := finds.sample
    obtain ⟨sample', made', counted'⟩ := finds'.sample
    refine ⟨sample, sample', made, made', fun kind => ?_⟩
    rw [Sample.ticks?, counted, Sample.ticks?, counted']
    exact Reader.cpuOf_mono fast same user system kind

/-- A stat line that can be read as a statm line too. -/
def twofold (utime stime : String) : String :=
  "1 2 3 (x) S 1 5 0 0 0 0 0 0 0 0 " ++ utime ++ " " ++ stime ++ " 0 0 0 0 0 0 500"

theorem holding_finds {text : String} {line : StatLine} (sizes : StatmLine)
    (accepted : StatLine.parse? text.toList = some line)
    (sized : StatmLine.parse? text.toList 4096 = some sizes) :
    (holding (Text.Utf8.encode text)).Finds 5 () text.toList line := by
  have content (file : String) :
      ((holding (Text.Utf8.encode text)).text 5 file ()).1 = .ok text.toList := by
    rw [Reader.text_of_read rfl, Text.Utf8.decode?_encode]
  have read : StatmLine.parse? text.toList (holding (Text.Utf8.encode text)).units.pageSize =
      some sizes := sized
  refine ⟨content "stat", accepted, sizes, ?_⟩
  simp only [Reader.readStatm, Engine.bind_apply, content, read]
  rfl

/-- The last product that fits a word, and the first that does not. -/
theorem saturated_ticks_add_up :
    let early := twofold "18446744073709551" "7"
    let late := twofold "18446744073709552" "18446744073709551615"
    let line : StatLine := ⟨"x", 'S', 1, 5, 18446744073709551, 7, 500⟩
    let line' : StatLine := ⟨"x", 'S', 1, 5, 18446744073709552, 18446744073709551615, 500⟩
    let r := holding (Text.Utf8.encode early)
    let r' := holding (Text.Utf8.encode late)
    line.utime.toNat * 1000 < 2 ^ 64 ∧ 2 ^ 64 ≤ line'.utime.toNat * 1000 ∧
      (millisOfTicks line.utime 100).toNat = 184467440737095510 ∧
      (millisOfTicks line'.utime 100).toNat ≤ 184467440737095520 ∧
      (line'.user 2).toNat + (line'.system 2).toNat < 2 ^ 64 ∧
      line.utime ≤ line'.utime ∧ line.stime ≤ line'.stime ∧
      millisOfTicks line.utime 100 ≤ millisOfTicks line'.utime 100 ∧
      2 ≤ r.units.ticksPerSecond ∧ r'.units.ticksPerSecond = r.units.ticksPerSecond ∧
      r.Finds 5 () early.toList line ∧ r'.Finds 5 () late.toList line' ∧
      (∃ sample total, (r'.sample 5 ()).1 = .ok sample ∧ sample.ticks? .total = some total ∧
        total.toNat = 368934881474191032) ∧
      ∃ sample sample', (r.sample 5 ()).1 = .ok sample ∧ (r'.sample 5 ()).1 = .ok sample' ∧
        ∀ kind, ∃ a b, sample.ticks? kind = some a ∧ sample'.ticks? kind = some b ∧ a ≤ b := by
  intro early late line line' r r'
  obtain ⟨millis, ordered, fits, added, later⟩ := @ticks_add_up Unit
  have fast : 2 ≤ r.units.ticksPerSecond := by decide
  have user : line.utime ≤ line'.utime := by decide
  have system : line.stime ≤ line'.stime := by decide
  have whole : line.utime.toNat * 1000 < 2 ^ 64 := by decide
  have finds : r.Finds 5 () early.toList line :=
    holding_finds ⟨4096, 8192, 12288⟩ (by decide +kernel) (by decide +kernel)
  have finds' : r'.Finds 5 () late.toList line' :=
    holding_finds ⟨4096, 8192, 12288⟩ (by decide +kernel) (by decide +kernel)
  obtain ⟨_, floor, _⟩ := millis line.utime 100
  obtain ⟨_, _, below⟩ := millis line'.utime 100
  obtain ⟨sample, total, made, _, _, counted, sum⟩ := added r' 5 () _ line' fast finds'
  refine ⟨whole, by decide, (floor whole).trans (by decide), Nat.le_trans below (by decide),
    (fits 2).mpr (by decide) _ line' finds'.accepted, user, system, ordered _ _ 100 user, fast, rfl,
    finds, finds', ⟨sample, total, made, counted, sum.trans (by decide +kernel)⟩, ?_⟩
  exact later r r' 5 () _ line 5 () _ line' fast rfl finds finds' user system

end ProcMeter.Procfs
