import ProcMeter.Text.Blank
import ProcMeter.Text.Numeral

/-! The memory line of a process: sizes in pages, of which the first three are
the whole, the resident and the shared size. -/
namespace ProcMeter.Procfs

open ProcMeter.Text

/-- Sizes in bytes. -/
structure StatmLine where
  size : UInt64
  resident : UInt64
  shared : UInt64
  deriving DecidableEq

/-- Pages in bytes, saturating at 64 bits. -/
def bytesOfPages (pages pageSize : UInt64) : UInt64 :=
  UInt64.ofNat (min (pages.toNat * pageSize.toNat) 0xFFFFFFFFFFFFFFFF)

def StatmLine.parse? (content : List Char) (pageSize : UInt64) : Option StatmLine := do
  let ws := words content
  let size ← uint64? (← ws[0]?)
  let resident ← uint64? (← ws[1]?)
  let shared ← uint64? (← ws[2]?)
  some ⟨bytesOfPages size pageSize, bytesOfPages resident pageSize, bytesOfPages shared pageSize⟩

end ProcMeter.Procfs
