import ProcMeter.Text.Pieces

/-! Unix path texts. A path is absolute when it starts with a slash. Its
components are the names between slashes; empty ones do not count, nor does
`.`, unless it starts a path that is not absolute. -/
namespace ProcMeter.Path

/-- The names between the slashes, empty ones included. -/
def segments (p : List Char) : List (List Char) := Text.pieces (· == '/') p

def isAbsolute (p : List Char) : Bool := p.head? == some '/'

/-- A segment that names no component where it stands after others. -/
def isIdle (s : List Char) : Bool := s == [] || s == ['.']

/-- What a path is made of. -/
inductive Component where
  | root
  /-- A `.` at the start of a path that is not absolute. -/
  | here
  | up
  | name (s : List Char)
  deriving DecidableEq

/-- The component of a segment that is not idle. -/
def Component.ofSegment (s : List Char) : Component := if s == ['.', '.'] then .up else .name s

def components (p : List Char) : List Component :=
  let body := ((segments p).filter fun s => !isIdle s).map Component.ofSegment
  if isAbsolute p then .root :: body
  else if (segments p).head? == some ['.'] then .here :: body
  else body

/-- Two texts are the same path when their components are. -/
def same (p q : List Char) : Bool := components p == components q

/-- Segments with slashes between them. -/
def joinSegments : List (List Char) → List Char
  | [] => []
  | [s] => s
  | s :: ss => s ++ '/' :: joinSegments ss

/-- Leaves out idle segments at both ends. -/
def trimIdle (ss : List (List Char)) : List (List Char) :=
  ((ss.dropWhile isIdle).reverse.dropWhile isIdle).reverse

/-- The text of an absolute path from its first component after the root to its
last; another path as it is. -/
def withoutRoot (p : List Char) : List Char :=
  if isAbsolute p then joinSegments (trimIdle (segments p)) else p

/-- `q` below `p`; an absolute `q` stands alone. -/
def join (p q : List Char) : List Char :=
  if isAbsolute q then q
  else if p.isEmpty || p.getLast? == some '/' then p ++ q
  else p ++ '/' :: q

/-- The name of the last component, if that is a name. -/
def fileName? (p : List Char) : Option (List Char) :=
  match (components p).getLast? with
  | some (.name s) => some s
  | _ => none

/-- What follows the last dot of the file name, unless that dot comes first. -/
def extension? (p : List Char) : Option (List Char) := do
  let name ← fileName? p
  let ext := (name.reverse.takeWhile (· != '.')).reverse
  let stem := name.take (name.length - ext.length - 1)
  if ext.length = name.length || stem.isEmpty then none else some ext

end ProcMeter.Path
