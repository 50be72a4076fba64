import ProcMeter.Files.Basic
import ProcMeter.Path

/-! A tree of files in memory, with directories and symbolic links, read as a
Unix system reads files. Paths are taken from the working directory, below which
the whole tree lies; outside it there is nothing. -/
namespace ProcMeter

/-- What a name in a directory stands for. -/
inductive FileNode where
  | file (content : Text.Utf8.Bytes)
  | dir
  | link (target : String)

/-- The names from the working directory down. -/
abbrev Place := List String

/-- All that is below the working directory, by place. -/
structure FileTree where
  nodes : List (Place × FileNode)

namespace FileTree

def empty : FileTree := ⟨[]⟩

def node? (t : FileTree) (p : Place) : Option FileNode :=
  if p.isEmpty then some .dir else t.nodes.lookup p

/-- Takes away a file, or a directory with all it holds. -/
def remove (t : FileTree) (p : Place) : FileTree :=
  ⟨t.nodes.filter fun n => !p.isPrefixOf n.1⟩

/-- Makes the directories on the way to a place. -/
def makeDirs (t : FileTree) : Place → Place → FileTree
  | _, [] => t
  | above, s :: rest =>
    let here := above ++ [s]
    let t := if (t.node? here).isSome then t else ⟨t.nodes ++ [(here, .dir)]⟩
    makeDirs t here rest

/-- The names of a path that has no links and no dots in it. -/
def placeOf (path : String) : Place :=
  ((Path.segments path.toList).filter fun s => !Path.isIdle s).map String.ofList

/-- Puts a node at a place, with the directories on the way to it. An existing
directory stays as it is when a directory is put there. -/
def put (t : FileTree) (path : String) (n : FileNode) : FileTree :=
  let p := placeOf path
  let t := t.makeDirs [] p.dropLast
  match t.node? p, n with
  | some .dir, .dir => t
  | _, n => let t := t.remove p; ⟨t.nodes ++ [(p, n)]⟩

/-- The longest name in bytes, and the bound on a whole path. -/
def longestName : Nat := 255
def longestPath : Nat := 4095

/-- Follows the segments of a path from a directory, over at most `links` links;
`fuel` bounds the segments. A link that ends the path is followed on request. -/
def walk (t : FileTree) (followLast : Bool) : Nat → Nat → Place → List (List Char) →
    Except IoError (Place × FileNode)
  | 0, _, _, _ => .error (.os Errno.linkLoop)
  | _ + 1, _, here, [] => .ok (here, .dir)
  | fuel + 1, links, here, s :: rest =>
    if Path.isIdle s then walk t followLast fuel links here rest
    else if s = ['.', '.'] then
      if here.isEmpty then .error (.os Errno.noEntry)
      else walk t followLast fuel links here.dropLast rest
    else
      let name := String.ofList s
      if longestName < name.utf8ByteSize then .error (.os Errno.nameTooLong)
      else
        let place := here ++ [name]
        match t.node? place with
        | none => .error (.os Errno.noEntry)
        | some .dir => walk t followLast fuel links place rest
        | some (.file content) =>
          if rest.isEmpty then .ok (place, .file content) else .error (.os Errno.notDirectory)
        | some (.link target) =>
          if rest.isEmpty && !followLast then .ok (place, .link target)
          else if Path.isAbsolute target.toList || target.isEmpty then .error (.os Errno.noEntry)
          else
            match links with
            | 0 => .error (.os Errno.linkLoop)
            | links + 1 =>
              walk t followLast fuel links here (Path.segments target.toList ++ rest)

/-- What a path leads to. -/
def find (t : FileTree) (followLast : Bool) (path : String) : Except IoError (Place × FileNode) :=
  let cs := path.toList
  if cs.contains '\x00' then .error .nulInName
  else if cs.isEmpty || Path.isAbsolute cs then .error (.os Errno.noEntry)
  else if longestPath < path.utf8ByteSize then .error (.os Errno.nameTooLong)
  else t.walk followLast (100 * (cs.length + 100)) 40 [] (Path.segments cs)

def read (t : FileTree) (path : String) : Except IoError Text.Utf8.Bytes :=
  match t.find true path with
  | .error e => .error e
  | .ok (_, .file content) => .ok content
  | .ok _ => .error (.os Errno.isDirectory)

def readLink (t : FileTree) (path : String) : Except IoError String :=
  match t.find false path with
  | .error e => .error e
  | .ok (_, .link target) => .ok target
  | .ok _ => .error (.os Errno.invalidArgument)

/-- The name of a node that lies directly in a directory. -/
def childOf? (dir : Place) (n : Place × FileNode) : Option String :=
  if n.1.dropLast = dir then n.1.getLast? else none

def list (t : FileTree) (path : String) : Except IoError (List String) :=
  match t.find true path with
  | .error e => .error e
  | .ok (place, .dir) => .ok (t.nodes.filterMap (childOf? place))
  | .ok _ => .error (.os Errno.notDirectory)

def leadsTo (t : FileTree) (path : String) : Bool := (t.find true path).isOk

/-- Reading the tree that `current` gives. -/
def files {m : Type → Type} [Monad m] (current : m FileTree) : Files m where
  read path := return (← current).read path
  readLink path := return (← current).readLink path
  list path := return (← current).list path
  leadsTo path := return (← current).leadsTo path

end FileTree

end ProcMeter
