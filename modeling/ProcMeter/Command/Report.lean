import ProcMeter.Engine
import ProcMeter.Json.Printer
import ProcMeter.Process.Form

/-! The reports of the commands. Shares need an earlier state, so what is reported of one
moment comes from the second of two samples, with a pause between them. -/
namespace ProcMeter

/-- Why a command has no report. -/
inductive CommandError where
  | sampling (cause : CycleError)
  | listing (cause : CycleError)
  | samplingOne (pid : Pid) (cause : SampleError)
  deriving DecidableEq

/-- The input or output error that a cycle failed for. -/
def CycleError.ioError? : CycleError → Option IoError
  | .enumeration _ cause => some cause
  | .unsupported => none

/-- The input or output error that a process could not be read for. -/
def SampleError.ioError? : SampleError → Option IoError
  | .io _ cause => some cause
  | _ => none

namespace CommandError

/-- A message and, again, the input or output error that it ends with. -/
def chain (context message : String) (cause : Option IoError) : String :=
  match cause with
  | some e => s!"{context}: {message}: {e.message}"
  | none => s!"{context}: {message}"

def message : CommandError → String
  | .sampling e => chain "Failed to sample processes" e.message e.ioError?
  | .listing e => chain "Failed to list processes" e.message e.ioError?
  | .samplingOne pid e => chain s!"Failed to sample process {pid.toInt}" e.message e.ioError?

end CommandError

namespace Report

/-- A text with a line end. -/
def line (s : String) : String := s ++ "\n"

/-- A number or name in a column of eight characters. -/
def column (s : String) : String := String.ofList (List.replicate (8 - s.length) ' ') ++ s

/-- The states of one cycle, one on a line. -/
def cycleLines (states : List ProcState) : String :=
  String.join (states.map fun s => line (Json.compact s.toJson))

/-- The states of one cycle in one array. -/
def cycleArray (pretty : Bool) (states : List ProcState) : String :=
  let v := Json.arr (states.map ProcState.toJson)
  line (if pretty then v.pretty else v.compact)

def single (s : ProcState) : String := line s.toJson.pretty

/-- A table of processes with their states. -/
def table (entries : List ListEntry) : String :=
  line (column "PID" ++ "  STATE") ++
    String.join (entries.map fun e => line (column (toString e.pid.toInt) ++ "  " ++ e.state.word)) ++
    line s!"\n{entries.length} processes"

end Report

namespace Engine

variable {m : Type → Type} [Monad m]

/-- Reports the second of two cycles. -/
def reportOnce (e : Engine m) (pause : m Unit) (pretty : Bool) : m (Except CommandError String) := do
  match ← e.cycle .empty with
  | (.error err, _) => return .error (.sampling err)
  | (.ok _, r) =>
    pause
    let (result, _) ← e.cycle r
    return (result.mapError CommandError.sampling).map (Report.cycleArray pretty)

/-- Reports the second of two samples of one process. -/
def reportPid (e : Engine m) (pause : m Unit) (pid : Pid) : m (Except CommandError String) := do
  match ← e.sampleOne .empty pid with
  | (.error err, _) => return .error (.samplingOne pid err)
  | (.ok _, r) =>
    pause
    let (result, _) ← e.sampleOne r pid
    return (result.mapError (CommandError.samplingOne pid)).map Report.single

/-- Reports all matching processes. -/
def reportList (e : Engine m) : m (Except CommandError String) := do
  return ((← e.listStates).mapError CommandError.listing).map Report.table

/-- One cycle of a report that goes on. A cycle that fails adds nothing to it. -/
def reportCycle (e : Engine m) (r : Record) : m (String × Record) := do
  let (result, r) ← e.cycle r
  match result with
  | .ok states => return (Report.cycleLines states, r)
  | .error _ => return ("", r)

end Engine

end ProcMeter
