import ProcMeter.Toml.Value

/-! A TOML text as one table. The text is a list of sections; the header of a section
says where its members belong. The sections for one table or for one array of tables
need not stand together, but a table has at most one section of its own, and an array
gets an item from each section that is headed as one. -/
namespace ProcMeter.Toml

structure Section where
  /-- The names that lead to the table. -/
  header : List String
  /-- The table is a new item of an array. -/
  isItem : Bool
  members : Members

namespace Reader

/-- The header of a section. -/
def header : Reader Section := do
  expect .bracketOpen
  let isItem ← eat .bracketOpen
  skipBlank
  let names ← key
  expect .bracketClose
  if isItem then expect .bracketClose
  endLine
  return ⟨names, isItem, []⟩

/-- Adds the member on a line to a section. -/
def member (s : Section) : Reader Section := do
  let k ← key
  expect .equals
  skipBlank
  let v ← value ((← get).length + 1)
  endLine
  return { s with members := ← s.members.add? k.length k v }

/-- The section that goes on from `s`, and all sections after it. `fuel` bounds the
lines. -/
def sectionsFrom : Nat → Section → Reader (List Section)
  | 0, _ => failure
  | fuel + 1, s => do
    skipLines ((← get).length + 1)
    match ← peek with
    | none => return [s]
    | some .bracketOpen =>
      let next ← header
      return s :: (← sectionsFrom fuel next)
    | some _ => sectionsFrom fuel (← member s)

/-- All sections; the first belongs to the whole text. -/
def sections : Reader (List Section) := do
  sectionsFrom ((← get).length + 1) ⟨[], false, []⟩

end Reader

namespace Section

/-- Follows the header one step down. -/
def below (s : Section) : Section := { s with header := s.header.tail }

/-- The section starts an item of the array itself. -/
def startsItem (s : Section) : Bool := s.isItem && s.header.isEmpty

/-- Takes sections apart before each that starts an item. -/
def groups : List Section → List (List Section)
  | [] => []
  | s :: ss =>
    match groups ss with
    | [] => [[s]]
    | g :: gs => if (g.head?.map startsItem).getD false then [s] :: g :: gs else (s :: g) :: gs

mutual

/-- The table that sections make up. `own` says that its own section has been met. -/
def table? : Nat → Bool → List Section → Option Members
  | 0, _, _ => none
  | _ + 1, _, [] => some []
  | fuel + 1, own, s :: ss =>
    match s.header with
    | [] => if own || s.isItem then none else do return s.members ++ (← table? fuel true ss)
    | name :: _ => do
      let (mine, others) := ss.partition fun t => t.header.head? == some name
      let inner := (s :: mine).map below
      let v ←
        if s.below.startsItem then do pure (.array (← items? fuel (groups inner)))
        else do pure (.table false (← table? fuel false inner))
      return (name, v) :: (← table? fuel own others)

/-- The items of an array, each made of the sections up to the next item. -/
def items? : Nat → List (List Section) → Option (List Value)
  | 0, _ => none
  | _ + 1, [] => some []
  | _ + 1, [] :: _ => none
  | fuel + 1, (s :: ss) :: gs => do
    let ms ← table? fuel true ss
    return .table false (s.members ++ ms) :: (← items? fuel gs)

end

/-- More than the steps down all headers and along all sections. -/
def stepsIn (ss : List Section) : Nat :=
  ss.foldl (fun n s => n + 2 * s.header.length + 4) 4

end Section

/-- Reads a text. -/
def Value.read? (cs : List Char) : Option Value := do
  let (ss, _) ← Reader.sections.run (← Token.scan? cs)
  return .table false (← Section.table? (Section.stepsIn ss) false ss)

end ProcMeter.Toml
