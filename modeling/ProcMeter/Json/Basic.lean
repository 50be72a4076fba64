import ProcMeter.Decimal.Layout

/-! JSON values. Members of an object keep their order and may repeat a name;
what a repeated name means is for the reader of a record to say. Numbers keep
the decimal that was written, exactly. -/
namespace ProcMeter

/-- A written number: `coefficient * 10 ^ scale` with a sign. It is `whole` when
it has neither fraction nor exponent, and then `scale` is zero. Minus zero is a
number of its own. -/
structure Numeral where
  negative : Bool
  coefficient : Nat
  scale : Int
  whole : Bool
  deriving DecidableEq

inductive Json where
  | null
  | bool (b : Bool)
  | num (n : Numeral)
  | str (s : String)
  | arr (items : List Json)
  | obj (members : List (String × Json))
  /-- A string, or an object with a name, in which an escape leaves a surrogate
  unpaired. It is well written but spells no Unicode text. -/
  | illFormed

namespace Numeral

def ofNat (n : Nat) : Numeral := ⟨false, n, 0, true⟩

def ofInt (n : Int) : Numeral := ⟨n < 0, n.natAbs, 0, true⟩

/-- The shortest decimal of a finite number. -/
def ofFloat (x : Float) : Numeral :=
  if x.toBits.toNat % 0x8000000000000000 = 0 then ⟨Decimal.isNegative x, 0, -1, false⟩
  else
    let d := (Decimal.Binary.ofBits x.toBits).shortest
    ⟨Decimal.isNegative x, d.digits, d.exponent, false⟩

/-- The integer that a whole numeral writes. Minus zero is not one. -/
def toInt? (n : Numeral) : Option Int :=
  if !n.whole then none
  else if n.negative then (if n.coefficient = 0 then none else some (-n.coefficient))
  else some n.coefficient

/-- The nearest binary64 number. -/
def toFloat (n : Numeral) : Float :=
  let magnitude :=
    if n.scale < 0 then Float.ofScientific n.coefficient true n.scale.natAbs
    else Float.ofScientific n.coefficient false n.scale.natAbs
  if n.negative then -magnitude else magnitude

/-- The text: digits alone for a whole numeral, else as `Decimal.Scaled.layout`
writes the value. -/
def render (n : Numeral) : List Char :=
  let magnitude :=
    if n.whole then Decimal.digitsOf n.coefficient
    else if n.coefficient = 0 then ['0', '.', '0']
    else Decimal.Scaled.layout ⟨n.coefficient, n.scale⟩
  if n.negative then '-' :: magnitude else magnitude

end Numeral

namespace Json

def ofNat (n : Nat) : Json := .num (.ofNat n)

def ofInt (n : Int) : Json := .num (.ofInt n)

def ofUInt64 (n : UInt64) : Json := .ofNat n.toNat

def ofInt32 (n : Int32) : Json := .ofInt n.toInt

/-- A finite number as its shortest decimal, and null for any other. -/
def ofFloat (x : Float) : Json := if x.isFinite then .num (.ofFloat x) else .null

def ofOption {α : Type} (f : α → Json) : Option α → Json
  | none => .null
  | some a => f a

def strings (xs : List String) : Json := .arr (xs.map .str)

/-- A member that is left out when there is no value. -/
def member? {α : Type} (name : String) (f : α → Json) : Option α → List (String × Json)
  | none => []
  | some a => [(name, f a)]

end Json

end ProcMeter
