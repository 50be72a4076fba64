import ProcMeter.Process.State
import ProcMeter.Text.Blank
import ProcMeter.Text.Numeral

/-! The stat line of a process. The command name stands between the first
opening and the last closing parenthesis, so it may hold blanks and parentheses
of its own. The fields after it are words; the first of them, the state, is
field 3 of the line. Counters are in clock ticks. -/
namespace ProcMeter.Procfs

open ProcMeter.Text

structure StatLine where
  name : String
  state : Char
  ppid : Int32
  pgrp : Int32
  utime : UInt64
  stime : UInt64
  starttime : UInt64
  deriving DecidableEq

/-- The fields from the words after the name, of which there are at least 20. -/
def StatLine.ofWords? (name : List Char) (ws : List (List Char)) : Option StatLine := do
  let state ← (← ws[0]?).head?
  let ppid ← int32? (← ws[1]?)
  let pgrp ← int32? (← ws[2]?)
  let utime ← uint64? (← ws[11]?)
  let stime ← uint64? (← ws[12]?)
  let starttime ← uint64? (← ws[19]?)
  some ⟨String.ofList name, state, ppid, pgrp, utime, stime, starttime⟩

def StatLine.parse? (content : List Char) : Option StatLine := do
  let (_, rest) ← cut? '(' content
  let (name, rest) ← cutLast? ')' rest
  StatLine.ofWords? name (words rest)

/-- Clock ticks in milliseconds. The product saturates at 64 bits, and a rate of
zero counts as one. -/
def millisOfTicks (ticks perSecond : UInt64) : UInt64 :=
  UInt64.ofNat (min (ticks.toNat * 1000) 0xFFFFFFFFFFFFFFFF / max perSecond.toNat 1)

end ProcMeter.Procfs
