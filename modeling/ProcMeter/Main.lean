import ProcMeter.Pattern.Reader
import ProcMeter.Program

/-! The program on a real machine. Here are the only effects: reading files, the clock,
waiting and printing. -/
namespace ProcMeter.Main

/-- The number of an error of the operating system. -/
def errorOf : IO.Error → IoError
  | .alreadyExists _ n _ | .otherError n _ | .resourceBusy n _ | .resourceVanished n _
  | .unsupportedOperation n _ | .hardwareFault n _ | .unsatisfiedConstraints n _
  | .illegalOperation n _ | .protocolError n _ | .timeExpired n _ | .interrupted _ n _
  | .noFileOrDirectory _ n _ | .invalidArgument _ n _ | .permissionDenied _ n _
  | .resourceExhausted _ n _ | .inappropriateType _ n _ | .noSuchThing _ n _ => .os n.toNat
  | .unexpectedEof => .other "unexpected end of file"
  | .userError text => .other text

def guarded {α : Type} (action : IO α) : IO (Except IoError α) := do
  try return .ok (← action) catch e => return .error (errorOf e)

def files : Files IO where
  read path := guarded do return (← IO.FS.readBinFile path).toList
  readLink path := guarded do return (← IO.FS.realPath path).toString
  list path := guarded do
    let directory := (← IO.currentDir) / path
    return (← directory.readDir).toList.map fun entry => entry.fileName
  leadsTo path := do
    let place := (← IO.currentDir) / path
    place.pathExists

/-- The words of a file's first line. -/
def firstWords (path : String) : IO (List String) := do
  try
    let text ← IO.FS.readFile path
    return (Text.words (text.toList.takeWhile (· != '\n'))).map String.ofList
  catch _ => return []

/-- The user with an id, from the list of users. -/
def userName (uid : UInt32) : IO (Option String) := do
  try
    let text ← IO.FS.readFile "/etc/passwd"
    return (text.splitOn "\n").findSome? fun entry =>
      match entry.splitOn ":" with
      | name :: _ :: id :: _ => if id == toString uid.toNat then some name else none
      | _ => none
  catch _ => return none

/-- The number of processors that are listed. -/
def cpus : IO UInt64 := do
  try
    let text ← IO.FS.readFile "/proc/cpuinfo"
    let count := ((text.splitOn "\n").filter fun entry => entry.startsWith "processor").length
    return UInt64.ofNat (Nat.max 1 count)
  catch _ => return 1

/-- The time: that of the last boot and the time since then. -/
def now : IO Instant := do
  let boot ← Procfs.readBootTime files .default
  let since ← IO.monoNanosNow
  return Instant.addNanos ⟨(boot.toOption.getD 0).toNat, 0⟩ since

def ownPid : IO Pid := do
  return ((← firstWords "/proc/self/stat").head?.bind fun w => Text.int32? w.toList).getD 0

def machine : Machine IO where
  files := files
  surroundings := ⟨userName, now, cpus⟩
  units := .usual
  stopwatch := return (← IO.monoNanosNow).toFloat / 1000000
  pause := IO.sleep 1000
  ownPid := ownPid

/-- Prints cycle after cycle. -/
partial def sampleOn (e : Engine IO) (seconds : UInt64) (r : Record) : IO Unit := do
  let start ← IO.monoMsNow
  let (text, r) ← e.reportCycle r
  let out ← IO.getStdout
  out.putStr text
  out.flush
  let spent := (← IO.monoMsNow) - start
  IO.sleep (UInt32.ofNat (seconds.toNat * 1000 - spent))
  sampleOn e seconds r

end ProcMeter.Main

def main (args : List String) : IO UInt32 := do
  match ← ProcMeter.Program.run ProcMeter.Main.machine ProcMeter.Pattern.compile? args with
  | .finished f =>
    IO.print f.output
    IO.eprint f.complaint
    return f.exit
  | .sampling e seconds =>
    ProcMeter.Main.sampleOn e seconds .empty
    return 0
