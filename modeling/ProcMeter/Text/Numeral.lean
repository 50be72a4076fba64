/-! Decimal numerals of bounded integer types. A numeral is a sign that may be
left out and at least one ASCII digit; leading zeros are allowed and a value out
of range is no numeral of the type. An unsigned type refuses a minus sign, even
before zero. -/
namespace ProcMeter.Text

/-- The value of an ASCII digit. -/
def digit? (c : Char) : Option Nat :=
  if '0' ≤ c ∧ c ≤ '9' then some (c.toNat - '0'.toNat) else none

/-- Reads on from `acc`, one digit at a time. -/
def digitsFrom? (acc : Nat) : List Char → Option Nat
  | [] => some acc
  | c :: cs =>
    match digit? c with
    | some d => digitsFrom? (acc * 10 + d) cs
    | none => none

/-- The value of a non-empty run of digits. -/
def digits? : List Char → Option Nat
  | [] => none
  | cs => digitsFrom? 0 cs

/-- The value of a digit in a base up to 16, where letters may be of either case. -/
def digitIn? (base : Nat) (c : Char) : Option Nat :=
  let value : Option Nat :=
    if '0' ≤ c ∧ c ≤ '9' then some (c.toNat - 48)
    else if 'a' ≤ c ∧ c ≤ 'f' then some (c.toNat - 87)
    else if 'A' ≤ c ∧ c ≤ 'F' then some (c.toNat - 55)
    else none
  value.filter (· < base)

/-- The value of a non-empty run of digits in a base up to 16. -/
def digitsIn? (base : Nat) : List Char → Option Nat
  | [] => none
  | cs => (cs.mapM (digitIn? base)).map (List.foldl (fun acc d => acc * base + d) 0)

/-- A natural number below `bound`. -/
def natBelow? (bound : Nat) (cs : List Char) : Option Nat :=
  let body := match cs with
    | '+' :: rest => rest
    | _ => cs
  (digits? body).filter (· < bound)

/-- An integer from `-bound` up to but not including `bound`. -/
def intWithin? (bound : Nat) (cs : List Char) : Option Int :=
  match cs with
  | '-' :: rest => ((digits? rest).filter (· ≤ bound)).map fun n => -(n : Int)
  | _ => (natBelow? bound cs).map Int.ofNat

def uint64? (cs : List Char) : Option UInt64 := (natBelow? 0x10000000000000000 cs).map UInt64.ofNat

def uint32? (cs : List Char) : Option UInt32 := (natBelow? 0x100000000 cs).map UInt32.ofNat

def int64? (cs : List Char) : Option Int64 := (intWithin? 0x8000000000000000 cs).map Int64.ofInt

def int32? (cs : List Char) : Option Int32 := (intWithin? 0x80000000 cs).map Int32.ofInt

end ProcMeter.Text
