/-! Records in any notation. A notation says which slots the fields of a record fill
and how the values in them are read; what a record means is said once, for all
notations. -/
namespace ProcMeter

/-- What a record says about one field. -/
inductive Slot (V : Type) where
  | given (v : V)
  /-- The record has no field of this name. -/
  | unnamed
  /-- The record lists its fields in order and ends before this one. -/
  | withheld

namespace Slot

variable {V : Type}

/-- A field that must be there. -/
def required? {α : Type} (s : Slot V) (dec : V → Option α) : Option α :=
  match s with
  | given v => dec v
  | _ => none

/-- A field that has a value when it is missing. -/
def orDefault? {α : Type} (s : Slot V) (default : α) (dec : V → Option α) : Option α :=
  match s with
  | given v => dec v
  | _ => some default

/-- The field with these spellings among members. It is an error to give it twice,
under whatever spellings. -/
def ofMembers? (members : List (String × V)) (spellings : List String) : Option (Slot V) :=
  match members.filter fun m => spellings.contains m.1 with
  | [] => some .unnamed
  | [m] => some (.given m.2)
  | _ => none

/-- The fields of a list, which has no more items than there are fields. -/
def ofItems? : List (List String) → List V → Option (List (Slot V))
  | [], [] => some []
  | [], _ :: _ => none
  | _ :: fs, [] => (ofItems? fs []).map (.withheld :: ·)
  | _ :: fs, v :: vs => (ofItems? fs vs).map (.given v :: ·)

end Slot

/-- How a notation writes records and the values in them. -/
structure Notation (V : Type) where
  /-- The fields of a record, each given by its spellings. -/
  slots? : List (List String) → V → Option (List (Slot V))
  toBool? : V → Option Bool
  toUInt64? : V → Option UInt64
  toString? : V → Option String
  items? : V → Option (List V)
  /-- Whether a value that may be missing is missing. -/
  isMissing? : V → Option Bool

namespace Notation

variable {V : Type}

def texts? (w : Notation V) (v : V) : Option (List String) := do (← w.items? v).mapM w.toString?

/-- A value that may be missing. -/
def optional? {α : Type} (w : Notation V) (dec : V → Option α) (v : V) : Option (Option α) := do
  if ← w.isMissing? v then some none else (dec v).map some

end Notation

end ProcMeter
