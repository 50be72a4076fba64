import ProcMeter.Dict
import ProcMeter.Text.Blank
import ProcMeter.Text.Numeral
import ProcMeter.Text.Utf8

/-! The files that tell who a process is. The command line and the environment
are byte strings that end in NUL; empty ones do not count, and bytes that are
not UTF-8 are replaced. The user is the first number of the `Uid:` line of the
status file. -/
namespace ProcMeter.Procfs

open ProcMeter.Text

/-- The texts between NUL bytes, without the empty ones. -/
def nulTexts (content : Utf8.Bytes) : List (List Char) :=
  (runs (· == 0) content).map Utf8.decodeLossy

/-- The arguments of a command line. -/
def parseArgs (content : Utf8.Bytes) : List String := (nulTexts content).map String.ofList

/-- Name and value of a variable, at the first equals sign. -/
def binding? (text : List Char) : Option (String × String) :=
  (cut? '=' text).map fun (k, v) => (String.ofList k, String.ofList v)

/-- An environment; of variables with one name the last counts. -/
def parseEnviron (content : Utf8.Bytes) : Dict String :=
  Dict.ofList ((nulTexts content).filterMap binding?)

/-- The real user id of a status file. -/
def parseUid? (content : List Char) : Option UInt32 := do
  let rest ← (lines content).findSome? (after? ['U', 'i', 'd', ':'])
  uint32? (← (words rest).head?)

end ProcMeter.Procfs
