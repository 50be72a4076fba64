import Mathlib.Data.Nat.Basic
import Mathlib.Tactic.IntervalCases
import ProcMeter.Text.Numeral

/-! Numerals that are written come back when they are read. The decimal text of a number has
digits only and starts with no zero but that of zero itself, so no reader takes it for another
number, and the bounded readers take it whenever the number has their type. -/
namespace ProcMeter.Text

theorem digit?_digitChar {d : Nat} (small : d < 10) : digit? (Nat.digitChar d) = some d := by
  interval_cases d <;> rfl

theorem digitsFrom?_append (acc : Nat) (xs ys : List Char) :
    digitsFrom? acc (xs ++ ys) = (digitsFrom? acc xs).bind fun n => digitsFrom? n ys := by
  induction xs generalizing acc with
  | nil => rfl
  | cons c cs ih =>
    simp only [List.cons_append, digitsFrom?]
    cases digit? c with
    | none => rfl
    | some d => exact ih _

/-- The last digit is the remainder, and those before it are the digits of the quotient. -/
theorem digitsFrom?_toDigits (n : Nat) : digitsFrom? 0 (Nat.toDigits 10 n) = some n := by
  induction n using Nat.strong_induction_on with
  | _ n ih =>
    rcases Nat.lt_or_ge n 10 with small | large
    · rw [Nat.toDigits_of_lt_base small, digitsFrom?, digit?_digitChar small]
      simp only [Nat.zero_mul, Nat.zero_add, digitsFrom?]
    · have quotient : digitsFrom? 0 (Nat.toDigits 10 (n / 10)) = some (n / 10) :=
        ih (n / 10) (by omega)
      have remainder : digit? (Nat.digitChar (n % 10)) = some (n % 10) :=
        digit?_digitChar (Nat.mod_lt n (by decide))
      rw [Nat.toDigits_of_base_le (by decide) large, digitsFrom?_append, quotient]
      simp only [Option.bind_some, digitsFrom?, remainder, Nat.div_add_mod' n 10]

theorem toDigits_ne_nil (n : Nat) : Nat.toDigits 10 n ≠ [] := by
  rcases Nat.lt_or_ge n 10 with small | large
  · rw [Nat.toDigits_of_lt_base small]
    exact List.cons_ne_nil _ _
  · rw [Nat.toDigits_of_base_le (by decide) large]
    exact List.append_ne_nil_of_right_ne_nil _ (List.cons_ne_nil _ _)

theorem isDigit_of_mem_toDigits {n : Nat} {c : Char} (mem : c ∈ Nat.toDigits 10 n) :
    c.isDigit = true :=
  Nat.isDigit_of_mem_toDigits (by decide) (by decide) mem

theorem digits?_toDigits (n : Nat) : digits? (Nat.toDigits 10 n) = some n := by
  cases split : Nat.toDigits 10 n with
  | nil => exact absurd split (toDigits_ne_nil n)
  | cons c cs =>
    rw [digits?, ← split, digitsFrom?_toDigits]
    exact List.cons_ne_nil c cs

/-- A numeral does not begin with a sign. -/
theorem toDigits_head_ne {n : Nat} {c : Char} {cs : List Char} (sign : Char)
    (noDigit : sign.isDigit = false) (split : Nat.toDigits 10 n = c :: cs) : c ≠ sign := by
  intro same
  have digit : c.isDigit = true := isDigit_of_mem_toDigits (split ▸ List.mem_cons_self)
  rw [same, noDigit] at digit
  contradiction

theorem natBelow?_toDigits {bound n : Nat} (below : n < bound) :
    natBelow? bound (Nat.toDigits 10 n) = some n := by
  have unsigned : ∀ rest, Nat.toDigits 10 n = '+' :: rest → False := fun rest signed =>
    toDigits_head_ne '+' (by decide) signed rfl
  rw [natBelow?.eq_2 _ _ unsigned, digits?_toDigits, Option.filter_some,
    if_pos (decide_eq_true below)]

theorem intWithin?_toDigits {bound n : Nat} (below : n < bound) :
    intWithin? bound (Nat.toDigits 10 n) = some (n : Int) := by
  have unsigned : ∀ rest, Nat.toDigits 10 n = '-' :: rest → False := fun rest signed =>
    toDigits_head_ne '-' (by decide) signed rfl
  rw [intWithin?.eq_2 _ _ unsigned, natBelow?_toDigits below, Option.map_some,
    Int.ofNat_eq_natCast]

theorem intWithin?_minus {bound n : Nat} (within : n ≤ bound) :
    intWithin? bound ('-' :: Nat.toDigits 10 n) = some (-(n : Int)) := by
  simp only [intWithin?, digits?_toDigits, Option.filter_some, decide_eq_true within, if_true]
  rfl

theorem toList_toString_uint64 (n : UInt64) : (toString n).toList = Nat.toDigits 10 n.toNat :=
  String.toList_ofList

/-- The text of an integer is that of its magnitude, with a minus before it below zero. -/
theorem toList_toString_int32 (n : Int32) :
    (toString n).toList =
      if n.toInt < 0 then '-' :: Nat.toDigits 10 n.toInt.natAbs
      else Nat.toDigits 10 n.toInt.natAbs := by
  change (Int.repr n.toInt).toList = _
  cases n.toInt with
  | ofNat m =>
    rw [if_neg (Int.not_lt.2 (Int.natCast_nonneg m) : ¬ Int.ofNat m < 0)]
    exact String.toList_ofList
  | negSucc m =>
    rw [if_pos (Int.negSucc_lt_zero m)]
    simp only [Int.repr, Nat.repr, String.toList_append, String.toList_ofList]
    rfl

theorem uint64?_toString (n : UInt64) : uint64? (toString n).toList = some n := by
  rw [uint64?, toList_toString_uint64, natBelow?_toDigits n.toNat_lt, Option.map_some,
    UInt64.ofNat_toNat]

theorem toList_toString_uint32 (n : UInt32) : (toString n).toList = Nat.toDigits 10 n.toNat :=
  String.toList_ofList

theorem uint32?_toString (n : UInt32) : uint32? (toString n).toList = some n := by
  rw [uint32?, toList_toString_uint32, natBelow?_toDigits n.toNat_lt, Option.map_some,
    UInt32.ofNat_toNat]

theorem int32?_toString (n : Int32) : int32? (toString n).toList = some n := by
  have least : -2147483648 ≤ n.toInt := n.le_toInt
  have greatest : n.toInt < 2147483648 := n.toInt_lt
  suffices read : intWithin? 0x80000000 (toString n).toList = some n.toInt by
    rw [int32?, read, Option.map_some, Int32.ofInt_toInt]
  rw [toList_toString_int32]
  split
  case isTrue negative =>
    rw [intWithin?_minus (by omega)]
    exact congrArg some (by omega)
  case isFalse natural =>
    rw [intWithin?_toDigits (by omega)]
    exact congrArg some (by omega)

/-- The characters of decimal texts. -/
def isDecimal (c : Char) : Bool := c == '-' || c.isDigit

theorem isDecimal_of_mem_uint64 {n : UInt64} {c : Char} (mem : c ∈ (toString n).toList) :
    isDecimal c = true := by
  rw [toList_toString_uint64] at mem
  rw [isDecimal, isDigit_of_mem_toDigits mem, Bool.or_true]

theorem isDecimal_of_mem_uint32 {n : UInt32} {c : Char} (mem : c ∈ (toString n).toList) :
    isDecimal c = true := by
  rw [toList_toString_uint32] at mem
  rw [isDecimal, isDigit_of_mem_toDigits mem, Bool.or_true]

theorem isDecimal_of_mem_int32 {n : Int32} {c : Char} (mem : c ∈ (toString n).toList) :
    isDecimal c = true := by
  rw [toList_toString_int32] at mem
  split at mem
  case isTrue =>
    rcases List.mem_cons.1 mem with rfl | digit
    · rfl
    · rw [isDecimal, isDigit_of_mem_toDigits digit, Bool.or_true]
  case isFalse => rw [isDecimal, isDigit_of_mem_toDigits mem, Bool.or_true]

end ProcMeter.Text
