/-! Points in time, counted from 1970-01-01T00:00:00Z without leap seconds. A
reading within a leap second keeps the second before it and goes on counting
nanoseconds past 10⁹, so it is still told from the second after it. -/
namespace ProcMeter

structure Instant where
  seconds : Int
  /-- Below 2 · 10⁹. -/
  nanos : Nat
  deriving DecidableEq

namespace Instant

/-- 1970-01-01T00:00:00Z. -/
def epoch : Instant := ⟨0, 0⟩

/-- Nanoseconds since the epoch, as if each second had as many as its reading counts. -/
def totalNanos (t : Instant) : Int := t.seconds * 1_000_000_000 + t.nanos

def ofTotalNanos (n : Int) : Instant := ⟨n.fdiv 1_000_000_000, (n.fmod 1_000_000_000).toNat⟩

/-- The reading is within a leap second. -/
def inLeap (t : Instant) : Bool := 1_000_000_000 ≤ t.nanos

/-- The same fraction of the second before the leap second. -/
def beforeLeap (t : Instant) : Instant := ⟨t.seconds, t.nanos - 1_000_000_000⟩

/-- The same fraction of the second after the leap second. -/
def afterLeap (t : Instant) : Instant := ⟨t.seconds + 1, t.nanos - 1_000_000_000⟩

/-- The instant `n` nanoseconds later. Within a leap second the count goes on; from
there to a later second the leap second takes no time, and to an earlier one it
takes a second. -/
def addNanos (t : Instant) (n : Int) : Instant :=
  let linear (base : Instant) : Instant := ofTotalNanos (base.totalNanos + n)
  let whole := n.tdiv 1_000_000_000
  let part := n.tmod 1_000_000_000
  if t.inLeap then
    if 0 < whole ∨ 0 < part ∧ 2_000_000_000 ≤ t.nanos + part then linear t.beforeLeap
    else if whole < 0 then linear t.afterLeap
    else ⟨t.seconds, (t.nanos + part).toNat⟩
  else linear t

/-- The second of the day. -/
def secondOfDay (t : Instant) : Int := t.seconds % 86400

/-- The leap second that lies between two readings, forward or back: one is within
it, and the other has a later second of the day. -/
def leapBetween (a b : Instant) : Int :=
  if a.secondOfDay < b.secondOfDay ∧ a.inLeap then 1
  else if b.secondOfDay < a.secondOfDay ∧ b.inLeap then -1
  else 0

/-- Nanoseconds from `a` to `b`. -/
def nanosBetween (a b : Instant) : Int :=
  b.totalNanos - a.totalNanos + a.leapBetween b * 1_000_000_000

/-- Whole microseconds from `a` to `b`, without the fraction, unless they do not
fit in 64 bits. -/
def microsBetween? (a b : Instant) : Option Int :=
  let micros := (a.nanosBetween b).tdiv 1000
  if -0x8000000000000000 ≤ micros ∧ micros < 0x8000000000000000 then some micros else none

/-- Whether a second is in the years -262143 to 262142, the range of all
instants that are read. -/
def isCounted (second : Int) : Bool := -8334601228800 ≤ second && second ≤ 8210266876799

/-- The instant at a count of seconds, within that range. -/
def ofTimestamp? (seconds : Int) (nanos : Nat) : Option Instant :=
  if isCounted seconds then some ⟨seconds, nanos⟩ else none

end Instant

end ProcMeter
