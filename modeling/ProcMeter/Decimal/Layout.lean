import ProcMeter.Decimal.Shortest

/-! How a number with a fraction is written: the shortest digits, positional
between 10⁻⁵ and 10¹⁶ and always with a point there, otherwise with an exponent
that has neither a plus sign nor leading zeros. -/
namespace ProcMeter.Decimal

/-- The decimal digits of a natural number. -/
def digitsOf (n : Nat) : List Char := Nat.toDigits 10 n

/-- The exponent part. -/
def exponentPart (e : Int) : List Char :=
  'e' :: (if e < 0 then '-' :: digitsOf e.natAbs else digitsOf e.natAbs)

/-- `x` as a positional or exponential decimal; it is positive. -/
def Scaled.layout (x : Scaled) : List Char :=
  let ds := digitsOf x.digits
  let point : Int := ds.length + x.exponent
  if 0 ≤ x.exponent ∧ point ≤ 16 then
    ds ++ List.replicate x.exponent.toNat '0' ++ ['.', '0']
  else if 0 < point ∧ point ≤ 16 then
    ds.take point.toNat ++ '.' :: ds.drop point.toNat
  else if -5 < point ∧ point ≤ 0 then
    '0' :: '.' :: (List.replicate (-point).toNat '0' ++ ds)
  else
    match ds with
    | [d] => d :: exponentPart (point - 1)
    | d :: rest => d :: '.' :: (rest ++ exponentPart (point - 1))
    | [] => []

/-- Whether the sign bit is set. -/
def isNegative (x : Float) : Bool := x.toBits.toNat / 0x8000000000000000 = 1

/-- The text of a finite number. -/
def render (x : Float) : List Char :=
  let magnitude :=
    if x.toBits.toNat % 0x8000000000000000 = 0 then ['0', '.', '0']
    else (Binary.ofBits x.toBits).shortest.layout
  if isNegative x then '-' :: magnitude else magnitude

end ProcMeter.Decimal
