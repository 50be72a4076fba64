/-! The shortest decimal of a binary64 number. A finite positive number is
`m * 2 ^ q`, and the decimals that read back as it fill an interval around it
whose ends belong to it exactly when `m` is even. Going from coarse to fine, the
first power of ten with a multiple inside the interval gives the fewest digits;
only the two multiples next to the number can be nearest, so only they are
tried. Of two hits the nearer one is taken, and the even one of two equally
near. All comparisons are between natural numbers. -/
namespace ProcMeter.Decimal

/-- The value `digits * 10 ^ exponent`. -/
structure Scaled where
  digits : Nat
  exponent : Int
  deriving DecidableEq

/-- The value `mantissa * 2 ^ exponent`; `narrow` when the gap below it is half
the gap above it. -/
structure Binary where
  mantissa : Nat
  exponent : Int
  narrow : Bool
  deriving DecidableEq

/-- The magnitude of a finite number, from its bits. -/
def Binary.ofBits (bits : UInt64) : Binary :=
  let fraction := bits.toNat % 0x10000000000000
  let biased : Nat := bits.toNat / 0x10000000000000 % 2048
  if biased = 0 then ⟨fraction, -1074, false⟩
  else ⟨fraction + 0x10000000000000, (biased : Int) - 1075, fraction = 0 && biased != 1⟩

/-- `base ^ n` for `n ≥ 0` and 1 below. -/
def powerUp (base : Nat) (n : Int) : Nat := Nat.pow base n.toNat

namespace Binary

/-- A quarter of the number's last place, in the units in which `10 ^ k` is
`tenUnits`. -/
def quarterUnits (b : Binary) (k : Int) : Nat :=
  powerUp 2 (b.exponent - 2) * powerUp 10 (-k)

/-- `10 ^ k` in the units of `quarterUnits`. -/
def tenUnits (b : Binary) (k : Int) : Nat :=
  powerUp 10 k * powerUp 2 (2 - b.exponent)

/-- Whether `d * 10 ^ k` reads back as the number. -/
def readsBack (b : Binary) (k : Int) (d : Nat) : Bool :=
  let w := b.quarterUnits k
  let low := (4 * b.mantissa - if b.narrow then 1 else 2) * w
  let high := (4 * b.mantissa + 2) * w
  let x := d * b.tenUnits k
  if b.mantissa % 2 = 0 then low ≤ x && x ≤ high else low < x && x < high

/-- The multiple of `10 ^ k` that reads back as the number, if one of the two
next to it does. -/
def onGrid? (b : Binary) (k : Int) : Option Nat :=
  let v := 4 * b.mantissa * b.quarterUnits k
  let u := b.tenUnits k
  let d := v / u
  match b.readsBack k d, b.readsBack k (d + 1) with
  | false, false => none
  | true, false => some d
  | false, true => some (d + 1)
  | true, true =>
    let below := v - d * u
    let above := (d + 1) * u - v
    if below < above then some d
    else if above < below then some (d + 1)
    else some (if d % 2 = 0 then d else d + 1)

/-- Tries `fuel` powers of ten, from `10 ^ k` down. -/
def search (b : Binary) : Nat → Int → Scaled
  | 0, k => ⟨0, k⟩
  | fuel + 1, k =>
    match b.onGrid? k with
    | some d => ⟨d, k⟩
    | none => search b fuel (k - 1)

/-- A power of ten above the number, and at most a hundred times above it. -/
def firstExponent (b : Binary) : Int :=
  (((b.mantissa.log2 : Int) + b.exponent) * 30103).fdiv 100000 + 2

/-- The shortest decimal of a positive number. Twenty powers of ten reach past
the seventeen digits that always suffice. -/
def shortest (b : Binary) : Scaled := b.search 20 b.firstExponent

end Binary

end ProcMeter.Decimal
