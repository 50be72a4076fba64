import ProcMeter.Path
import ProcMeter.Process.State

/-! Finding the host's files under a root of one's own, as when the host's
`/proc` is mounted in a container. -/
namespace ProcMeter

/-- Where the host's file tree begins. -/
structure Resolver where
  root : String
  deriving DecidableEq

namespace Resolver

def default : Resolver := ⟨"/"⟩

/-- A root other than `/` is in effect. -/
def isSet (r : Resolver) : Bool := !Path.same r.root.toList ['/']

/-- The place of a path, seen from the host, under the root. -/
def resolve (r : Resolver) (path : String) : String :=
  String.ofList (Path.join r.root.toList (Path.withoutRoot path.toList))

/-- A file or directory inside a directory. -/
def within (dir name : String) : String := String.ofList (Path.join dir.toList name.toList)

/-- The directory of a process. -/
def procDir (r : Resolver) (pid : Pid) : String := within (r.resolve "/proc") (toString pid.toInt)

end Resolver

end ProcMeter
