import ProcMeter.Json.Basic
import ProcMeter.Record

/-! Records in JSON. A record is an object whose names are the fields, in any
order and with unknown names passed over, or an array of the fields in their
order. An array that ends early withholds the fields after it, which only a field
with a default forgives. -/
namespace ProcMeter

namespace Json

/-- The fields of a record, each given by its spellings. -/
def slots? (fields : List (List String)) : Json → Option (List (Slot Json))
  | .obj ms => fields.mapM (Slot.ofMembers? ms)
  | .arr vs => Slot.ofItems? fields vs
  | _ => none

def toBool? : Json → Option Bool
  | .bool b => some b
  | _ => none

def toString? : Json → Option String
  | .str s => some s
  | _ => none

def toList? {α : Type} (dec : Json → Option α) : Json → Option (List α)
  | .arr vs => vs.mapM dec
  | _ => none

/-- A whole number from `lo` to `hi`. -/
def toIntWithin? (lo hi : Int) : Json → Option Int
  | .num n => n.toInt?.filter fun i => lo ≤ i && i ≤ hi
  | _ => none

def toUInt64? (v : Json) : Option UInt64 :=
  (toIntWithin? 0 0xFFFFFFFFFFFFFFFF v).map fun i => UInt64.ofNat i.toNat

def toUInt32? (v : Json) : Option UInt32 :=
  (toIntWithin? 0 0xFFFFFFFF v).map fun i => UInt32.ofNat i.toNat

def toInt32? (v : Json) : Option Int32 := (toIntWithin? (-0x80000000) 0x7FFFFFFF v).map Int32.ofInt

def toInt64? (v : Json) : Option Int64 :=
  (toIntWithin? (-0x8000000000000000) 0x7FFFFFFFFFFFFFFF v).map Int64.ofInt

/-- A number within the range of binary64. -/
def toFloat? : Json → Option Float
  | .num n => (some n.toFloat).filter Float.isFinite
  | _ => none

/-- JSON as a notation of records. -/
def records : Notation Json where
  slots? := slots?
  toBool? := toBool?
  toUInt64? := toUInt64?
  toString? := toString?
  items?
    | .arr vs => some vs
    | _ => none
  isMissing?
    | .null => some true
    | _ => some false

end Json

/-- A field that may be null or unnamed. -/
def Slot.optional? {α : Type} (s : Slot Json) (dec : Json → Option α) : Option (Option α) :=
  match s with
  | .given .null => some none
  | .given v => (dec v).map some
  | .unnamed => some none
  | .withheld => none

end ProcMeter
