import ProcMeter.Process.State
import ProcMeter.Text.Blank
import ProcMeter.Text.Numeral

/-! Control group membership: lines of a hierarchy number, a list of controllers
and a path, between colons. The path may hold colons itself. -/
namespace ProcMeter

open ProcMeter.Text

/-- The membership of a line; none when it has another form. -/
def CgroupEntry.parse? (line : List Char) : Option CgroupEntry := do
  let (number, rest) ← cut? ':' line
  let hierarchy ← uint32? number
  let (controllers, path) ← cut? ':' rest
  some ⟨hierarchy, (runs (· == ',') controllers).map String.ofList, String.ofList path⟩

namespace CgroupInfo

/-- The memberships of all lines that have the form. -/
def parse (content : List Char) : CgroupInfo := ⟨(lines content).filterMap CgroupEntry.parse?⟩

/-- The path in the unified hierarchy, or else in the first one. -/
def primaryPath? (c : CgroupInfo) : Option String :=
  ((c.entries.find? fun e => e.hierarchy == 0 && e.controllers.isEmpty).or c.entries.head?).map
    CgroupEntry.path

/-- Every path is the root. -/
def isRootOnly (c : CgroupInfo) : Bool := c.entries.all fun e => e.path == "/"

/-- What is worth reporting: some membership, and when root groups are ignored
one outside the root. -/
def reported? (c : CgroupInfo) (ignoreRoot : Bool) : Option CgroupInfo :=
  if c.entries.isEmpty || (ignoreRoot && c.isRootOnly) then none else some c

end CgroupInfo

end ProcMeter
