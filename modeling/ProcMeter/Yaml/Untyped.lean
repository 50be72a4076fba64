import ProcMeter.Decimal.Literal
import ProcMeter.Text.Pieces

/-! What plain YAML scalars may mean besides their text: nothing, a truth value, or a number
in decimal, hexadecimal, octal or binary digits. -/
namespace ProcMeter.Yaml

/-- A truth value, in one of three cases. -/
def truth? (s : String) : Option Bool :=
  if ["true", "True", "TRUE"].contains s then some true
  else if ["false", "False", "FALSE"].contains s then some false
  else none

def isNull (s : String) : Bool := ["null", "Null", "NULL", "~"].contains s

/-- The bases that are written before a number. -/
def bases : List (List Char × Nat) := [(['0', 'x'], 16), (['0', 'o'], 8), (['0', 'b'], 2)]

/-- More than one digit, the first of them a zero. That is no number. -/
def hasIdleZero (cs : List Char) : Bool :=
  match cs with
  | '0' :: d :: ds => (d :: ds).all Char.isDigit
  | _ => false

/-- A natural number below `bound`, without a sign. -/
def unsignedBelow? (bound : Nat) (cs : List Char) : Option Nat :=
  let read (base : Nat) (ds : List Char) : Option Nat :=
    (Text.digitsIn? base ds).filter (· < bound)
  match bases.findSome? fun b => (Text.after? b.1 cs).bind (read b.2) with
  | some n => some n
  | none => if hasIdleZero cs then none else read 10 cs

/-- A natural number below `bound`, possibly after a plus sign. -/
def natBelow? (bound : Nat) : List Char → Option Nat
  | '+' :: cs => unsignedBelow? bound cs
  | cs => unsignedBelow? bound cs

/-- A whole number of at most 128 bits. -/
def isInteger (cs : List Char) : Bool :=
  match cs with
  | '-' :: rest => (unsignedBelow? 0x80000000000000000000000000000001 rest).isSome
  | _ => (natBelow? 0x100000000000000000000000000000000 cs).isSome

/-- The names of numbers that are not finite, without a sign. -/
def infinities : List String := [".inf", ".Inf", ".INF"]

def nans : List String := [".nan", ".NaN", ".NAN"]

/-- A decimal that is finite, an infinity, or no number. -/
def isDecimal (cs : List Char) : Bool :=
  let magnitude := match cs with
    | '-' :: rest => rest
    | '+' :: rest => rest
    | _ => cs
  let s := String.ofList magnitude
  infinities.contains s || nans.contains (String.ofList cs) ||
    ((Decimal.literal? magnitude).any Decimal.Scaled.roundsToFinite)

/-- Whether a plain scalar would not be read as a text, or is close to a number that has
idle zeros. -/
def isTyped (s : String) : Bool :=
  let cs := s.toList
  let unsigned := match cs with
    | '-' :: rest => rest
    | '+' :: rest => rest
    | _ => cs
  s.isEmpty || isNull s || (truth? s).isSome || hasIdleZero unsigned || isInteger cs || isDecimal cs

end ProcMeter.Yaml
