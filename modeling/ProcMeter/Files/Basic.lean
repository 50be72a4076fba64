import ProcMeter.Fault
import ProcMeter.Text.Utf8

/-! Reading files, in whatever setting `m` the reading takes place. -/
namespace ProcMeter

/-- Access to a tree of files. -/
structure Files (m : Type → Type) where
  /-- The content of a file. -/
  read : String → m (Except IoError Text.Utf8.Bytes)
  /-- The target of a symbolic link. -/
  readLink : String → m (Except IoError String)
  /-- The names in a directory. -/
  list : String → m (Except IoError (List String))
  /-- Whether a path leads to something. -/
  leadsTo : String → m Bool

/-- Content that must be UTF-8. -/
def textOf (content : Except IoError Text.Utf8.Bytes) : Except IoError (List Char) :=
  match content with
  | .error e => .error e
  | .ok bytes =>
    match Text.Utf8.decode? bytes with
    | some cs => .ok cs
    | none => .error .notUtf8

/-- The text of a file. -/
def Files.readText {m : Type → Type} [Monad m] (files : Files m) (path : String) :
    m (Except IoError (List Char)) := do
  return textOf (← files.read path)

end ProcMeter
