import ProcMeter.Record
import ProcMeter.Toml.Document

/-! Records in TOML. A record is a table, or an array of the fields in their order. A date
or a time reads as a record of which nothing is known. No value that is given is
missing. -/
namespace ProcMeter.Toml.Value

/-- The fields of a record. -/
def slots? (fields : List (List String)) : Value → Option (List (Slot Value))
  | .table _ ms => fields.mapM (Slot.ofMembers? ms)
  | .moment => fields.mapM (Slot.ofMembers? [])
  | .array vs => Slot.ofItems? fields vs
  | _ => none

def toBool? : Value → Option Bool
  | .bool b => some b
  | _ => none

def toUInt64? : Value → Option UInt64
  | .integer n => if 0 ≤ n ∧ n < 0x10000000000000000 then some (UInt64.ofNat n.toNat) else none
  | _ => none

def toString? : Value → Option String
  | .text s => some s
  | _ => none

def items? : Value → Option (List Value)
  | .array vs => some vs
  | _ => none

/-- TOML as a notation of records. -/
def records : Notation Value where
  slots? := slots?
  toBool? := toBool?
  toUInt64? := toUInt64?
  toString? := toString?
  items? := items?
  isMissing? _ := some false

end ProcMeter.Toml.Value
