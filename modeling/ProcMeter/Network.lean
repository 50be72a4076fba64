import ProcMeter.Process.State
import ProcMeter.Text.Blank
import ProcMeter.Text.Numeral

/-! Network protocol counters. They come in pairs of lines: a header with the
counters' names and a line with their values, both after the same section name
and a colon. Values belong to names by position. -/
namespace ProcMeter.Network

open ProcMeter.Text

def isUpper (c : Char) : Bool := 'A' ≤ c && c ≤ 'Z'

def isLowerOrDigit (c : Char) : Bool := ('a' ≤ c && c ≤ 'z') || ('0' ≤ c && c ≤ '9')

/-- Snake case of what follows a character that was a lower-case letter or a
digit, or was not. -/
def snakeFrom (afterLower : Bool) : List Char → List Char
  | [] => []
  | c :: cs =>
    if isUpper c then
      if afterLower then '_' :: c.toLower :: snakeFrom false cs else c.toLower :: snakeFrom false cs
    else c :: snakeFrom (isLowerOrDigit c) cs

/-- The key of a section name such as `TcpExt`: `tcp_ext`. -/
def sectionKey (name : List Char) : List Char := snakeFrom false name

/-- The names that have a value, with their values. -/
def readings (names values : List (List Char)) : List (String × Int64) :=
  (names.zip values).filterMap fun (n, v) => (int64? v).map fun i => (String.ofList n, i)

/-- The section of a pair of lines, if the two belong together. -/
def section? (header values : List Char) : Option (String × List (String × Int64)) := do
  let (title, names) ← cut? ':' header
  let (valueTitle, numbers) ← cut? ':' values
  if title = valueTitle then
    some (String.ofList (sectionKey (trim title)), readings (words names) (words numbers))
  else none

/-- Adds the counters of a section, which is there afterwards even without any. -/
def addSection (m : NetworkCounters) (s : String × List (String × Int64)) : NetworkCounters :=
  m.insert s.1 (Dict.insertAll ((m[s.1]?).getD ∅) s.2)

/-- Adds the counters of a pair of lines. -/
def addPair (m : NetworkCounters) (header values : List Char) : NetworkCounters :=
  match section? header values with
  | some s => addSection m s
  | none => m

/-- Adds the counters of all pairs; an odd last line stands alone and counts for
nothing. -/
def addPairs (m : NetworkCounters) : List (List Char) → NetworkCounters
  | header :: values :: rest => addPairs (addPair m header values) rest
  | _ => m

/-- Adds the counters of a file. -/
def parseInto (m : NetworkCounters) (content : List Char) : NetworkCounters :=
  addPairs m (lines content)

/-- Keeps the counters whose names the whitelist accepts, and the sections that
still have one. -/
def restrict (m : NetworkCounters) (whitelist : Matcher) : NetworkCounters :=
  (m.map fun _ s => s.filter fun name _ => whitelist.accepts name).filter fun _ s => !s.isEmpty

end ProcMeter.Network
