/-! What the sampler counts about its own work. Counts are 64-bit and wrap. -/
namespace ProcMeter

/-- Running statistics of one quantity. All are zero before the first value. -/
structure RunningStat where
  count : UInt64
  sum : Float
  min : Float
  max : Float
  last : Float

namespace RunningStat

def empty : RunningStat := ⟨0, 0.0, 0.0, 0.0, 0.0⟩

/-- The smaller number, and the other one where one is NaN; of equal ones the
second. -/
def lesser (x y : Float) : Float :=
  if x.isNaN then y else if y.isNaN then x else if x < y then x else y

/-- The greater number, and the other one where one is NaN; of equal ones the
second. -/
def greater (x y : Float) : Float :=
  if x.isNaN then y else if y.isNaN then x else if y < x then x else y

def add (s : RunningStat) (x : Float) : RunningStat :=
  if s.count == 0 then ⟨1, x, x, x, x⟩
  else ⟨s.count + 1, s.sum + x, lesser s.min x, greater s.max x, x⟩

theorem count_add (s : RunningStat) (x : Float) : (s.add x).count = s.count + 1 := by
  unfold add
  split
  · rename_i first
    rw [beq_iff_eq.mp first]
    rfl
  · rfl

def average (s : RunningStat) : Float := if s.count == 0 then 0.0 else s.sum / s.count.toFloat

end RunningStat

/-- Counts over the cycles of one engine. -/
structure Counters where
  cyclesTotal : UInt64
  cycleFailures : UInt64
  processesReported : UInt64
  pidsFiltered : UInt64
  pidsSkipped : UInt64
  permissionDenied : UInt64
  registryPruned : UInt64
  cycleDuration : RunningStat

namespace Counters

def zero : Counters := ⟨0, 0, 0, 0, 0, 0, 0, .empty⟩

/-- A cycle that took `millis` and reported so many processes. -/
def recordCycle (c : Counters) (reported : UInt64) (millis : Float) : Counters :=
  { c with
    cyclesTotal := c.cyclesTotal + 1
    processesReported := c.processesReported + reported
    cycleDuration := c.cycleDuration.add millis }

def recordFailure (c : Counters) : Counters := { c with cycleFailures := c.cycleFailures + 1 }

def recordFiltered (c : Counters) : Counters := { c with pidsFiltered := c.pidsFiltered + 1 }

def recordSkipped (c : Counters) : Counters := { c with pidsSkipped := c.pidsSkipped + 1 }

def recordDenied (c : Counters) : Counters := { c with permissionDenied := c.permissionDenied + 1 }

def recordPruned (c : Counters) (n : UInt64) : Counters :=
  { c with registryPruned := c.registryPruned + n }

/-- The counts alone. Of the times that cycles took, only their number stays. -/
def untimed (c : Counters) : Counters :=
  { c with cycleDuration := { RunningStat.empty with count := c.cycleDuration.count } }

theorem untimed_recordCycle {c c' : Counters} (same : c.untimed = c'.untimed) (reported : UInt64)
    (millis millis' : Float) :
    (c.recordCycle reported millis).untimed = (c'.recordCycle reported millis').untimed := by
  simp only [untimed, mk.injEq, RunningStat.mk.injEq] at same
  simp only [untimed, recordCycle, RunningStat.count_add, same]

end Counters

end ProcMeter
