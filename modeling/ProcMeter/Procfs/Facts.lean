import ProcMeter.Text.Blank
import ProcMeter.Text.Numeral

/-! Facts about the host: its memory and the time of its last boot. -/
namespace ProcMeter.Procfs

open ProcMeter.Text

/-- Why a fact is not known. -/
inductive FactError where
  | unreadable (path : String) (cause : String)
  | badMemory (line : String)
  | noMemory
  | noBootTime
  deriving DecidableEq

def FactError.message : FactError → String
  | .unreadable path cause => s!"Failed to read {path}: {cause}"
  | .badMemory line => s!"Invalid MemTotal line: {line}"
  | .noMemory => "MemTotal not found in /proc/meminfo"
  | .noBootTime => "btime not found in /proc/stat"

/-- A line with what follows `lead` in it. -/
def lineAfter? (lead : List Char) (line : List Char) : Option (List Char × List Char) :=
  (after? lead line).map fun rest => (line, rest)

/-- The host's memory in bytes, from the first `MemTotal:` line, which counts in
units of 1024 bytes. -/
def parseTotalMemory (content : List Char) : Except FactError UInt64 :=
  match (lines content).findSome? (lineAfter? ['M', 'e', 'm', 'T', 'o', 't', 'a', 'l', ':']) with
  | none => .error .noMemory
  | some (line, rest) =>
    match (words rest).head?.bind uint64? with
    | some kilobytes => .ok (kilobytes * 1024)
    | none => .error (.badMemory (String.ofList line))

/-- The boot time in seconds since the epoch, from the first `btime` line. -/
def parseBootTime (content : List Char) : Except FactError UInt64 :=
  match ((lines content).findSome? (after? ['b', 't', 'i', 'm', 'e', ' '])).bind
      fun rest => uint64? (trim rest) with
  | some t => .ok t
  | none => .error .noBootTime

end ProcMeter.Procfs
