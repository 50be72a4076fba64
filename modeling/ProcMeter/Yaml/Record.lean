import ProcMeter.Record
import ProcMeter.Yaml.Document
import ProcMeter.Yaml.Untyped

/-! Records in YAML. A record is a mapping; what is left blank is an empty record or an
empty list. An alias reads as the node that it stands for. Quotes make a scalar a text;
tags matter only to block scalars, which a tag can make a truth value or a number, and
to values that may be missing. -/
namespace ProcMeter.Yaml

/-- The tags of YAML itself. -/
def coreTag (name : String) : Option String := some ("tag:yaml.org,2002:" ++ name)

/-- The text of a scalar that may be of another type than text, given by its tag. -/
def Node.untyped? (tagName : String) : Node → Option String
  | .scalar _ .plain _ text => some text
  | .scalar _ .literal tag text => if tag = coreTag tagName then some text else none
  | _ => none

/-- Nothing is written. -/
def Node.isBlank : Node → Bool
  | .scalar _ .plain _ text => text.isEmpty
  | _ => false

namespace Document

def toBool? (d : Document) : Option Bool := do truth? (← (← d.target?).untyped? "bool")

def toUInt64? (d : Document) : Option UInt64 := do
  let text ← (← d.target?).untyped? "int"
  return UInt64.ofNat (← natBelow? 0x10000000000000000 text.toList)

def toString? (d : Document) : Option String := do
  match ← d.target? with
  | .scalar _ _ _ text => some text
  | _ => none

def items? (d : Document) : Option (List Document) := do
  match ← d.target? with
  | .sequence _ items => some (items.map d.part)
  | n => if n.isBlank then some [] else none

/-- Whether a value is missing. A tag for nothing must be on nothing. -/
def isMissing? (d : Document) : Option Bool := do
  match ← d.target? with
  | .scalar _ .plain none text => some (text.isEmpty || isNull text)
  | .scalar _ .plain tag text =>
    if tag = coreTag "null" then (if isNull text then some true else none) else some false
  | _ => some false

/-- The fields of a record. Every key of a mapping must be a text. -/
def slots? (fields : List (List String)) (d : Document) : Option (List (Slot Document)) := do
  match ← d.target? with
  | .mapping _ members =>
    let named ← members.mapM fun (k, v) => do return (← (d.part k).toString?, d.part v)
    fields.mapM (Slot.ofMembers? named)
  | n => if n.isBlank then fields.mapM (Slot.ofMembers? []) else none

/-- YAML as a notation of records. -/
def records : Notation Document where
  slots? := slots?
  toBool? := toBool?
  toUInt64? := toUInt64?
  toString? := toString?
  items? := items?
  isMissing? := isMissing?

end Document

end ProcMeter.Yaml
