import Mathlib.Algebra.Group.Int.Defs
import Mathlib.Algebra.Group.Nat.Defs
import NodeQuery.Node.Document

/-!
# Truth of documents

Whether a document is true can be asked of the document or of its value.  Both answers are the same.
Only for numbers is there anything to show: an integer beyond 64 bits becomes the nearest double as
a value, and no integer other than zero is so close to zero that the nearest double is zero.
-/

namespace NodeQuery

/-! ## Doubles that are not zero -/

namespace Double

open Float.Model (Format UnpackedFloat totalExponent)
open Float.Model.UnpackedFloat

/-- Not zero, and if finite, in the range of doubles: the mantissa has no more than 53 bits, and the
exponent is not below that of the least double. -/
inductive Significant : UnpackedFloat → Prop where
  | notANumber : Significant .notANumber
  | infinity (sign : Sign) : Significant (.infinity sign)
  | finite (sign : Sign) {mantissa : Nat} {exponent : Int} (positive : 0 < mantissa)
      (narrow : mantissa < 2 ^ 53) (least : -1074 ≤ exponent) :
      Significant (.finite sign mantissa exponent positive)

namespace Significant

variable {number : UnpackedFloat}

theorem neg (significant : Significant number) : Significant number.neg := by
  cases significant with
  | notANumber => exact .notANumber
  | infinity sign => exact .infinity (-sign)
  | finite sign positive narrow least => exact .finite (-sign) positive narrow least

theorem beq_zero (significant : Significant number) (sign : Sign) :
    number.beq (.zero sign) = false := by
  cases significant with
  | notANumber => rfl
  | infinity sign => cases sign <;> rfl
  | finite sign => cases sign <;> rfl

end Significant

/-! ## Packing -/

/-- A double is zero only if its exponent and its mantissa are. -/
theorem significant_unpack {bits : BitVec Format.binary64.numBits}
    (nonzero : @unpackExponent Format.binary64 bits ≠ 0#_ ∨
      @unpackMantissa Format.binary64 bits ≠ 0#_) :
    Significant (unpack Format.binary64 bits) := by
  have narrow : (@unpackMantissa Format.binary64 bits).toNat < 2 ^ 52 := BitVec.isLt _
  have bias : Format.binary64.exponentBias = 1023 := rfl
  delta unpack
  dsimp only
  by_cases allOnes : @unpackExponent Format.binary64 bits = -1#_
  · rw [if_pos allOnes]
    split
    case isTrue => exact .infinity _
    case isFalse => exact .notANumber
  · rw [if_neg allOnes]
    by_cases noExponent : @unpackExponent Format.binary64 bits = 0#_
    · have someMantissa := nonzero.resolve_left (not_not_intro noExponent)
      rw [if_pos noExponent, dif_neg someMantissa]
      exact .finite _ _ (by omega) (by simp [noExponent, bias])
    · have some : 0 < (@unpackExponent Format.binary64 bits).toNat :=
        Nat.pos_of_ne_zero fun none => noExponent (BitVec.eq_of_toNat_eq none)
      rw [if_neg noExponent]
      exact .finite _ _ (BitVec.isLt _) (by rw [bias]; omega)

/-- Not a number and the infinities are packed with all bits of the exponent. -/
theorem unpackExponent_ne_zero (sign : Sign)
    (mantissa : BitVec Format.binary64.mantissaBitsWithoutImplicit) :
    unpackExponent (packComponents Format.binary64 sign (-1#_) mantissa) ≠ 0#_ := by
  rw [unpackExponent_packComponents]
  decide

theorem ofNat_ne_zero {width value : Nat} (some : value % 2 ^ width ≠ 0) :
    BitVec.ofNat width value ≠ 0#_ := by
  intro zero
  have remainder := congrArg BitVec.toNat zero
  rw [BitVec.toNat_ofNat, BitVec.toNat_ofNat, Nat.zero_mod] at remainder
  exact some remainder

/-- Numbers beyond the largest double are packed as infinite, and those whose mantissa lacks its
first bit without an exponent. -/
theorem pack_finite (sign : Sign) {mantissa : Nat} {exponent : Int} (positive : 0 < mantissa) :
    pack Format.binary64 (.finite sign mantissa exponent positive) =
      if 2 ^ 11 ≤ (exponent + (1023 : Nat) + (52 : Nat)).toNat + 1 then
        packedInfinity Format.binary64 sign
      else if mantissa.log2 + 1 = 53 then
        packComponents Format.binary64 sign (.ofNat 11 (exponent + (1023 : Nat) + (52 : Nat)).toNat)
          (.ofNat 52 mantissa)
      else packComponents Format.binary64 sign 0#_ (.ofNat 52 mantissa) := rfl

theorem Significant.unpack_pack {number : UnpackedFloat} (significant : Significant number) :
    Significant (unpack Format.binary64 (pack Format.binary64 number)) := by
  apply significant_unpack
  cases significant with
  | notANumber => exact .inl (unpackExponent_ne_zero _ _)
  | infinity sign => exact .inl (unpackExponent_ne_zero sign _)
  | @finite sign mantissa exponent positive narrow least =>
      rw [pack_finite]
      split
      case isTrue => exact .inl (unpackExponent_ne_zero sign _)
      case isFalse finite =>
        split
        case isTrue =>
          left
          rw [unpackExponent_packComponents]
          exact ofNat_ne_zero (by omega)
        case isFalse short =>
          right
          rw [unpackMantissa_packComponents]
          have shorter : mantissa.log2 < 52 := by
            have bits := (Nat.log2_lt (Nat.ne_of_gt positive)).mpr narrow
            omega
          have fits := (Nat.log2_lt (Nat.ne_of_gt positive)).mp shorter
          exact ofNat_ne_zero (by omega)

/-! ## Rounding -/

theorem mantissa_shiftRight (extended : ExtendedMantissa) (count : Nat) :
    (extended >>> count).mantissa = extended.mantissa / 2 ^ count := by
  induction count with
  | zero => exact (Nat.div_one _).symm
  | succ count ih =>
      have step : (extended >>> (count + 1)).mantissa = (extended >>> count).mantissa / 2 := rfl
      rw [step, ih, Nat.div_div_eq_div_mul, Nat.pow_succ]

theorem mantissa_ofMantissaAndAccuracy (mantissa : Nat) (accuracy : Accuracy) :
    (ExtendedMantissa.ofMantissaAndAccuracy mantissa accuracy).mantissa = mantissa := by
  cases accuracy with
  | exact => rfl
  | inexact order => cases order <;> rfl

theorem le_roundedMantissa (extended : ExtendedMantissa) :
    extended.mantissa ≤ extended.roundedMantissa := by
  obtain ⟨mantissa, roundBit, stickyBit⟩ := extended
  cases roundBit <;> cases stickyBit <;>
    simp [ExtendedMantissa.roundedMantissa, ExtendedMantissa.accuracy, Accuracy.roundToNearestEven]

theorem targetExponent_eq (total : Int) :
    Format.binary64.targetExponent total = max (total - 53) (-1074) := rfl

/-- Dropping the bits that a double has no room for leaves at least the first one. -/
theorem div_bounds {mantissa count : Nat} (positive : 0 < mantissa)
    (dropped : count = mantissa.log2 - 52) :
    0 < mantissa / 2 ^ count ∧ mantissa / 2 ^ count < 2 ^ 53 := by
  have least := Nat.log2_self_le (Nat.ne_of_gt positive)
  constructor
  · apply Nat.div_pos _ (Nat.two_pow_pos _)
    exact Nat.le_trans (Nat.pow_le_pow_right (by decide) (by omega)) least
  · rw [Nat.div_lt_iff_lt_mul (Nat.two_pow_pos _), ← Nat.pow_add]
    exact Nat.lt_of_lt_of_le Nat.lt_log2_self (Nat.pow_le_pow_right (by decide) (by omega))

/-- Shifting leaves as many bits as a double has room for, and no less than one. -/
theorem shiftToTargetExponent_bounds {mantissa : Nat} {exponent : Int} (accuracy : Accuracy)
    (positive : 0 < mantissa) (least : -1074 ≤ exponent) :
    let shifted := shiftToTargetExponent Format.binary64 mantissa exponent accuracy
    0 < shifted.1.mantissa ∧ shifted.1.mantissa < 2 ^ 53 ∧ -1074 ≤ shifted.2 := by
  intro shifted
  have dropped : (Format.binary64.targetExponent (totalExponent mantissa exponent) -
      exponent).toNat = mantissa.log2 - 52 := by
    rw [targetExponent_eq, totalExponent]
    omega
  have remaining : shifted.1.mantissa = mantissa / 2 ^ (mantissa.log2 - 52) := by
    rw [← dropped]
    exact (mantissa_shiftRight _ _).trans (by rw [mantissa_ofMantissaAndAccuracy])
  obtain ⟨some, fits⟩ := div_bounds positive rfl
  refine ⟨by rwa [remaining], by rwa [remaining], ?_⟩
  exact Int.le_trans least (Int.le_add_of_nonneg_right (Int.natCast_nonneg _))

theorem significant_roundWithAccuracy (sign : Sign) {mantissa : Nat} {exponent : Int}
    (accuracy : Accuracy) (positive : 0 < mantissa) (least : -1074 ≤ exponent) :
    Significant (roundWithAccuracy Format.binary64 sign mantissa exponent accuracy) := by
  obtain ⟨some, _, above⟩ := shiftToTargetExponent_bounds accuracy positive least
  have rounded := Nat.lt_of_lt_of_le some (le_roundedMantissa _)
  -- Rounding may have made one bit more, which is shifted out.
  obtain ⟨some, fits, above⟩ := shiftToTargetExponent_bounds .exact rounded above
  delta roundWithAccuracy
  dsimp only
  rw [dif_neg (Nat.ne_of_gt some)]
  exact .finite _ _ fits above

/-! ## Integers -/

theorem ofNat_eq {value : Nat} (large : 2 ^ 53 ≤ value) :
    Float.ofNat value = .ofModel (.ofScientific value 0) := by
  change Float.ofScientific value false 0 = _
  unfold Float.ofScientific
  split
  case isTrue small => exact absurd small.1 (Nat.not_lt.mpr large)
  case isFalse => rfl

theorem ofScientific_eq {value : Nat} (some : value ≠ 0) :
    UnpackedFloat.ofScientific Format.binary64 value 0 =
      roundWithAccuracy Format.binary64 .positive (value <<< 53 * 10 ^ 0) (-53 + 0) .exact := by
  have notTiny : ¬ (0 : Int) < -(2 ^ Format.binary64.exponentBits + value.log2) := by
    have bits : Format.binary64.exponentBits = 11 := rfl
    rw [bits]
    omega
  rw [UnpackedFloat.ofScientific, dif_neg some, if_neg (by decide), if_neg notTiny,
    if_pos (Int.le_refl 0)]
  rfl

theorem significant_ofNat {value : Nat} (large : 2 ^ 53 ≤ value) :
    Significant (Float.ofNat value).toModel.unpack := by
  rw [ofNat_eq large]
  apply Significant.unpack_pack
  rw [ofScientific_eq (by omega)]
  apply significant_roundWithAccuracy
  · rw [Nat.shiftLeft_eq]
    omega
  · decide

theorem unpack_zero : (0.0 : Float).toModel.unpack = .zero .positive := rfl

/-- No integer beyond 64 bits is rounded to zero. -/
theorem ofInt_ne_zero {value : Int} (large : ¬ (-Int.pow 2 63 ≤ value ∧ value < Int.pow 2 63)) :
    (Float.ofInt value != 0.0) = true := by
  have significant : Significant (Float.ofInt value).toModel.unpack := by
    have bound : Int.pow 2 63 = 2 ^ 63 := rfl
    cases value with
    | ofNat value => exact significant_ofNat (by simp at large; omega)
    | negSucc value =>
        have significant : Significant (Float.ofNat (value + 1)).toModel.unpack :=
          significant_ofNat (by omega)
        exact significant.neg.unpack_pack
  have differs : (Float.ofInt value == 0.0) = false := by
    have compared : (Float.ofInt value == 0.0) =
        (Float.ofInt value).toModel.unpack.beq (0.0 : Float).toModel.unpack := rfl
    rw [compared, unpack_zero, significant.beq_zero]
  simp [bne, differs]

end Double

/-! ## Documents -/

/-- A document is as true as its value. -/
theorem Document.isTruthy_toValue (document : Document) :
    document.toValue.isTruthy = document.isTruthy := by
  cases document with
  | int value =>
      rw [toValue]
      split
      case isTrue fits =>
        have bound : Int.pow 2 63 = 2 ^ 63 := rfl
        have back : (Int64.ofInt value).toInt = value :=
          Int64.toInt_ofInt_of_le (by omega) (by omega)
        have same : (Int64.ofInt value != 0) = (value != 0) := by
          by_cases zero : value = 0
          · rw [zero]
            rfl
          · have some : Int64.ofInt value ≠ 0 := by
              intro none
              rw [none] at back
              exact zero back.symm
            rw [bne_iff_ne.mpr some, bne_iff_ne.mpr zero]
        exact same
      case isFalse large =>
        have some : value ≠ 0 := by
          rintro rfl
          exact large (by decide)
        simp [Value.isTruthy, isTruthy, Double.ofInt_ne_zero large, some]
  | array items => cases items <;> rfl
  | object members => cases members <;> rfl
  | _ => rfl

end NodeQuery
