import ProcMeter.Decimal.Literal
import ProcMeter.Text.Pieces

/-! Numbers of TOML. Single underscores may stand between the digits, and only where it
is said does a number start with idle zeros. -/
namespace ProcMeter.Toml

/-- Digits with an optional minus sign before them. -/
structure Digits where
  negative : Bool
  base : Nat
  digits : List Char

/-- The digits at the start of a text, and what follows them. -/
def Digits.take? (signed zeros : Bool) (base : Nat) (cs : List Char) :
    Option (Digits × List Char) :=
  let (negative, body) := match cs with
    | '-' :: rest => if signed then (true, rest) else (false, cs)
    | _ => (false, cs)
  let isDigit (c : Char) : Bool := (Text.digitIn? base c).isSome
  let run := body.takeWhile fun c => isDigit c || c == '_'
  let pieces := Text.pieces (· == '_') run
  let digits := pieces.flatten
  let idle := digits.head? == some '0' && 1 < digits.length
  if (pieces.any List.isEmpty) || (idle && !zeros) then none
  else some (⟨negative, base, digits⟩, body.drop run.length)

namespace Digits

def toInt (d : Digits) : Int :=
  let n := (Text.digitsIn? d.base d.digits).getD 0
  if d.negative then -n else n

end Digits

/-- The bases that are written before a number. -/
def bases : List (List Char × Nat) := [(['0', 'x'], 16), (['0', 'o'], 8), (['0', 'b'], 2)]

/-- A whole number of 64 bits with a sign. -/
def integer? (signed : Bool) (base : Nat) (cs : List Char) : Option Int := do
  let (d, rest) ← Digits.take? signed (!signed) base cs
  if rest.isEmpty && -0x8000000000000000 ≤ d.toInt && d.toInt < 0x8000000000000000 then
    some d.toInt
  else none

/-- A fraction and an exponent after whole digits make a number; it must be finite. -/
def isFloat (whole : Digits) (fraction : Option Digits) (exponent : Option Digits) : Bool :=
  let part := (fraction.map Digits.digits).getD []
  let n := (Text.digitsIn? 10 (whole.digits ++ part)).getD 0
  Decimal.Scaled.roundsToFinite ⟨n, (exponent.map Digits.toInt).getD 0 - part.length⟩

end ProcMeter.Toml
