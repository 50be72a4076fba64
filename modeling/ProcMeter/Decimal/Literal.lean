import ProcMeter.Decimal.Layout
import ProcMeter.Text.Numeral

/-! Decimals as they are written: digits with at most one point among or around them, and
possibly an exponent. -/
namespace ProcMeter.Decimal

/-- The least number that rounds to infinity in binary64. -/
def firstInfinite : Nat := Nat.pow 2 1024 - Nat.pow 2 970

/-- Whether a decimal rounds to a finite number of binary64. Only close to the largest one
is a comparison needed. -/
def Scaled.roundsToFinite (x : Scaled) : Bool :=
  let magnitude : Int := (digitsOf x.digits).length + x.exponent
  if x.digits = 0 || magnitude < 309 then true
  else if 309 < magnitude then false
  else if 0 ≤ x.exponent then x.digits * Nat.pow 10 x.exponent.toNat < firstInfinite
  else x.digits < firstInfinite * Nat.pow 10 x.exponent.natAbs

/-- An exponent after its letter: digits with an optional sign. -/
def exponent? : List Char → Option Int
  | '-' :: cs => (Text.digits? cs).map fun n => -(n : Int)
  | '+' :: cs => (Text.digits? cs).map Int.ofNat
  | cs => (Text.digits? cs).map Int.ofNat

/-- Reads a decimal without a sign. -/
def literal? (cs : List Char) : Option Scaled := do
  let whole := cs.takeWhile Char.isDigit
  let rest := cs.drop whole.length
  let fraction := match rest with
    | '.' :: more => more.takeWhile Char.isDigit
    | _ => []
  let rest := match rest with
    | '.' :: more => more.drop fraction.length
    | _ => rest
  let n ← Text.digits? (whole ++ fraction)
  let e ← match rest with
    | [] => some 0
    | e :: more => if e == 'e' || e == 'E' then exponent? more else none
  return ⟨n, e - fraction.length⟩

end ProcMeter.Decimal
