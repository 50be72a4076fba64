import Mathlib.Algebra.Order.Ring.Int
import Mathlib.Order.Compare
import ProcMeter.Top

/-! The order key of a binary64 number. Numbers other than NaN compare as their keys do, because
but for the sign the bits of a number are its exponent followed by its mantissa. -/
namespace ProcMeter

open Float.Model.UnpackedFloat
open Float.Model (Format UnpackedFloat)

/-- Numbers as binary64 has them. Only at the least exponent may a mantissa be short. -/
inductive Binary64 : UnpackedFloat → Prop where
  | infinity (sign : Sign) : Binary64 (.infinity sign)
  | notANumber : Binary64 .notANumber
  | zero (sign : Sign) : Binary64 (.zero sign)
  | finite (sign : Sign) (mantissa : Nat) (exponent : Int) (positive : 0 < mantissa)
      (bounded : mantissa < 2 ^ 53) (least : -1074 ≤ exponent) (greatest : exponent ≤ 971)
      (normal : exponent = -1074 ∨ 2 ^ 52 ≤ mantissa) :
      Binary64 (.finite sign mantissa exponent positive)

/-- The key of a number in parts: exponent and mantissa as they are packed, and beyond all finite
numbers the infinities. -/
def unpackedKey : UnpackedFloat → Int
  | .infinity sign => sign.apply (2047 * 2 ^ 52)
  | .notANumber => 0
  | .zero _ => 0
  | .finite sign mantissa exponent _ => sign.apply ((exponent + 1074) * 2 ^ 52 + mantissa)

section
variable {a b : Int}

theorem compare_neg : compare (-a) (-b) = (compare a b).swap := by
  rcases lt_trichotomy a b with less | rfl | more
  · rw [compare_lt_iff_lt.mpr less, Ordering.swap_lt, compare_gt_iff_gt]
    omega
  · rw [compare_eq_iff_eq.mpr rfl, compare_eq_iff_eq.mpr rfl, Ordering.swap_eq]
  · rw [compare_gt_iff_gt.mpr more, Ordering.swap_gt, compare_lt_iff_lt]
    omega

theorem lt_eq_compare (less : a < b) : some .lt = some (compare a b) := by
  rw [compare_lt_iff_lt.mpr less]

theorem gt_eq_compare (more : b < a) : some .gt = some (compare a b) := by
  rw [compare_gt_iff_gt.mpr more]

end

section
variable {m m' : Nat} {e e' : Int} (positive : 0 < m) (bounded : m < 2 ^ 53) (least : -1074 ≤ e)
  (greatest : e ≤ 971) (normal : e = -1074 ∨ 2 ^ 52 ≤ m) (bounded' : m' < 2 ^ 53)
  (least' : -1074 ≤ e') (normal' : e' = -1074 ∨ 2 ^ 52 ≤ m')

include positive bounded least greatest in
theorem magnitude_bounds :
    0 < (e + 1074) * 2 ^ 52 + m ∧ (e + 1074) * 2 ^ 52 + m < 2047 * 2 ^ 52 := by
  omega

include bounded least normal bounded' least' normal' in
/-- Exponents decide, and mantissas where they are equal. -/
theorem compare_magnitudes :
    (compare e e').then (compare m m') =
      compare ((e + 1074) * 2 ^ 52 + m) ((e' + 1074) * 2 ^ 52 + m') := by
  rcases lt_trichotomy e e' with less | rfl | more
  · rw [compare_lt_iff_lt.mpr less, Ordering.lt_then, eq_comm, compare_lt_iff_lt]
    omega
  · rw [compare_eq_iff_eq.mpr rfl, Ordering.eq_then]
    rcases lt_trichotomy m m' with less | rfl | more
    · rw [compare_lt_iff_lt.mpr less, eq_comm, compare_lt_iff_lt]
      omega
    · rw [compare_eq_iff_eq.mpr rfl, compare_eq_iff_eq.mpr rfl]
    · rw [compare_gt_iff_gt.mpr more, eq_comm, compare_gt_iff_gt]
      omega
  · rw [compare_gt_iff_gt.mpr more, Ordering.gt_then, eq_comm, compare_gt_iff_gt]
    omega

end

theorem apply_bounds {n : Int} (bounds : 0 < n ∧ n < 2047 * 2 ^ 52) (sign : Sign) :
    -(2047 * 2 ^ 52) < sign.apply n ∧ sign.apply n < 2047 * 2 ^ 52 := by
  obtain ⟨positive, bounded⟩ := bounds
  cases sign with
  | negative => exact ⟨neg_lt_neg bounded, (neg_lt_zero.mpr positive).trans (by decide)⟩
  | positive => exact ⟨(by decide : -(2047 * 2 ^ 52) < (0 : Int)).trans positive, bounded⟩

/-- Numbers in parts compare as their keys do. -/
theorem compare_unpacked {x y : UnpackedFloat} (left : Binary64 x) (right : Binary64 y)
    (number : x.isNaN = false) (number' : y.isNaN = false) :
    x.compare y = some (compare (unpackedKey x) (unpackedKey y)) := by
  cases left with
  | notANumber => contradiction
  | infinity s =>
    cases right with
    | notANumber => contradiction
    | infinity s' => cases s <;> cases s' <;> rfl
    | zero s' => cases s <;> rfl
    | finite s' m' e' positive' bounded' least' greatest' _ =>
      have bounds := magnitude_bounds positive' bounded' least' greatest'
      cases s with
      | negative => exact lt_eq_compare (apply_bounds bounds s').1
      | positive => exact gt_eq_compare (apply_bounds bounds s').2
  | zero s =>
    cases right with
    | notANumber => contradiction
    | infinity s' => cases s' <;> rfl
    | zero s' => rfl
    | finite s' m' e' positive' bounded' least' greatest' _ =>
      have bounds := magnitude_bounds positive' bounded' least' greatest'
      cases s' with
      | negative => exact gt_eq_compare (neg_lt_zero.mpr bounds.1)
      | positive => exact lt_eq_compare bounds.1
  | finite s m e positive bounded least greatest normal =>
    have bounds := magnitude_bounds positive bounded least greatest
    cases right with
    | notANumber => contradiction
    | infinity s' =>
      cases s' with
      | negative => exact gt_eq_compare (apply_bounds bounds s).1
      | positive => exact lt_eq_compare (apply_bounds bounds s).2
    | zero s' =>
      cases s with
      | negative => exact lt_eq_compare (neg_lt_zero.mpr bounds.1)
      | positive => exact gt_eq_compare bounds.1
    | finite s' m' e' positive' bounded' least' greatest' normal' =>
      have bounds' := magnitude_bounds positive' bounded' least' greatest'
      have same := compare_magnitudes bounded least normal bounded' least' normal'
      cases s with
      | negative =>
        cases s' with
        | negative => exact congrArg some ((congrArg Ordering.swap same).trans compare_neg.symm)
        | positive => exact lt_eq_compare ((neg_lt_zero.mpr bounds.1).trans bounds'.1)
      | positive =>
        cases s' with
        | negative => exact gt_eq_compare ((neg_lt_zero.mpr bounds'.1).trans bounds.1)
        | positive => exact congrArg some same

section
variable (b : BitVec 64)

/-- The bits of a number are its sign, its exponent and its mantissa. -/
theorem toNat_fields :
    b.toNat = (@unpackSign .binary64 b).toNat * 2 ^ 63 +
      (@unpackExponent .binary64 b).toNat * 2 ^ 52 +
        (@unpackMantissa .binary64 b).toNat := by
  have sign : (@unpackSign .binary64 b).toNat = b.toNat / 2 ^ 63 % 2 ^ 1 := by
    rw [← Nat.shiftRight_eq_div_pow]
    rfl
  have exponent : (@unpackExponent .binary64 b).toNat =
      b.toNat / 2 ^ 52 % 2 ^ 11 := by
    rw [← Nat.shiftRight_eq_div_pow]
    rfl
  have mantissa : (@unpackMantissa .binary64 b).toNat = b.toNat % 2 ^ 52 := rfl
  have short : b.toNat < 2 ^ 64 := b.isLt
  omega

/-- The key that `orderKey` reads off the bits. -/
def bitsKey : Int :=
  if b.toNat < 0x8000000000000000 then b.toNat else -((b.toNat : Int) - 0x8000000000000000)

theorem apply_sign {n : Int} (magnitude : n =
    (@unpackExponent .binary64 b).toNat * 2 ^ 52 +
      (@unpackMantissa .binary64 b).toNat) :
    (Sign.ofBitVec (@unpackSign .binary64 b)).apply n = bitsKey b := by
  have fields := toNat_fields b
  have exponent : (@unpackExponent .binary64 b).toNat < 2 ^ 11 := BitVec.isLt _
  have mantissa : (@unpackMantissa .binary64 b).toNat < 2 ^ 52 := BitVec.isLt _
  unfold Sign.ofBitVec bitsKey
  split
  · rename_i sign
    rw [sign] at fields
    simp only [BitVec.toNat_ofNat] at fields
    rw [if_pos (by omega), Sign.apply]
    omega
  · rename_i sign
    have sign : (@unpackSign .binary64 b).toNat = 1 := by
      have bit := BitVec.isLt (@unpackSign .binary64 b)
      have unset : (@unpackSign .binary64 b).toNat ≠ 0 :=
        fun zero => sign (BitVec.eq_of_toNat_eq zero)
      omega
    rw [sign] at fields
    rw [if_neg (by omega), Sign.apply]
    omega

theorem unpack_spec : Binary64 (unpack Format.binary64 b) ∧
    ((unpack Format.binary64 b).isNaN = false →
      unpackedKey (unpack Format.binary64 b) = bitsKey b) := by
  have exponent : (@unpackExponent .binary64 b).toNat < 2 ^ 11 := BitVec.isLt _
  have mantissa : (@unpackMantissa .binary64 b).toNat < 2 ^ 52 := BitVec.isLt _
  have bias : (Format.binary64.exponentBias : Int) + Format.binary64.mantissaBitsWithoutImplicit =
    1075 := rfl
  unfold UnpackedFloat.unpack
  dsimp only
  by_cases full : @unpackExponent .binary64 b = -1#11
  · rw [if_pos full]
    by_cases empty : @unpackMantissa .binary64 b = 0#52
    · rw [if_pos empty]
      refine ⟨.infinity _, fun _ => apply_sign b ?_⟩
      rw [full, empty]
      rfl
    · rw [if_neg empty]
      exact ⟨.notANumber, fun number => absurd number (by decide)⟩
  rw [if_neg full]
  by_cases vanishes : @unpackExponent .binary64 b = 0#11
  · rw [if_pos vanishes]
    by_cases empty : @unpackMantissa .binary64 b = 0#52
    · rw [dif_pos empty]
      have zero (s : Sign) : s.apply 0 = 0 := by cases s <;> rfl
      refine ⟨.zero _, fun _ => (zero _).symm.trans (apply_sign b ?_)⟩
      rw [vanishes, empty]
      rfl
    · rw [dif_neg empty]
      have least : (@unpackExponent .binary64 b).toNat = 0 := by
        rw [vanishes]
        rfl
      have positive : (@unpackMantissa .binary64 b).toNat ≠ 0 :=
        fun zero => empty (BitVec.eq_of_toNat_eq zero)
      refine ⟨.finite _ _ _ _ (by omega) ?_ ?_ (.inl ?_), fun _ => apply_sign b ?_⟩
      all_goals
        rw [bias]
        omega
  · rw [if_neg vanishes]
    have leading : (1#1 ++ @unpackMantissa .binary64 b).toNat =
        2 ^ 52 + (@unpackMantissa .binary64 b).toNat := by
      rw [BitVec.toNat_append, ← Nat.shiftLeft_add_eq_or_of_lt mantissa]
      rfl
    have more : (@unpackExponent .binary64 b).toNat ≠ 0 :=
      fun zero => vanishes (BitVec.eq_of_toNat_eq zero)
    have less : (@unpackExponent .binary64 b).toNat ≠ 2047 :=
      fun all => full (BitVec.eq_of_toNat_eq all)
    refine ⟨.finite _ _ _ _ ?_ ?_ ?_ (.inr ?_), fun _ => apply_sign b ?_⟩
    all_goals
      simp only [bias, leading]
      omega

end

section
variable {a b : Float}

theorem compare_orderKey (number : a.isNaN = false) (number' : b.isNaN = false) :
    a.toModel.unpack.compare b.toModel.unpack = some (compare (orderKey a) (orderKey b)) := by
  obtain ⟨left, key⟩ := unpack_spec a.toBits.toBitVec
  obtain ⟨right, key'⟩ := unpack_spec b.toBits.toBitVec
  refine (compare_unpacked left right number number').trans ?_
  rw [key number, key' number']
  rfl

theorem float_lt_iff (number : a.isNaN = false) (number' : b.isNaN = false) :
    a < b ↔ orderKey a < orderKey b := by
  have less : a < b ↔ a.toModel.unpack.compare b.toModel.unpack == some .lt := decide_eq_true_iff
  rw [less, compare_orderKey number number', beq_iff_eq, Option.some.injEq, compare_lt_iff_lt]

theorem float_beq_iff (number : a.isNaN = false) (number' : b.isNaN = false) :
    (a == b) = true ↔ orderKey a = orderKey b := by
  have same : (a == b) = (a.toModel.unpack.compare b.toModel.unpack == some .eq) := rfl
  rw [same, compare_orderKey number number', beq_iff_eq, Option.some.injEq, compare_eq_iff_eq]

end

end ProcMeter
