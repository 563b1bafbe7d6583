import DistinctCount.Decimal.Significant
import Mathlib

/-! Doubles and their bits. A finite double has one pattern of bits, and the fields of that
pattern give the rational number that the double stands for. The lemmas on packing and
unpacking doubles are not part of any single module of the library, so it is imported whole. -/
namespace DistinctCount.Decimal

open Float.Model Float.Model.UnpackedFloat

/-- Only numbers that are not finite have several patterns of bits. -/
theorem toBits_ofBits {bits : UInt64} (finite : (Float.ofBits bits).isFinite = true) :
    (Float.ofBits bits).toBits = bits := by
  have packed := @pack_unpack Format.binary64 bits.toBitVec (by decide)
  split at packed
  · -- A pattern that stands for no number is read as the one that does, which is not finite.
    have unpacked : (Float.ofBits bits).toModel.unpack = .notANumber := by
      change UnpackedFloat.unpack Format.binary64 (UnpackedFloat.pack Format.binary64 _) = _
      rw [packed, unpack_packedNaN]
    rw [Float.isFinite, Float.Model.isFinite, unpacked] at finite
    contradiction
  · exact UInt64.toBitVec_inj.mp packed

/-! ### Doubles as rational numbers -/

def signValue : Sign → ℚ
  | .positive => 1
  | .negative => -1

/-- The rational number that a double stands for. -/
def exactValue (x : Float) : Option ℚ :=
  match x.toModel.unpack with
  | .finite sign mantissa exponent _ => some (signValue sign * (mantissa * 2 ^ exponent))
  | .zero _ => some 0
  | .infinity _ => none
  | .notANumber => none

theorem toNat_unpackExponent (bits : UInt64) :
    (@unpackExponent Format.binary64 bits.toBitVec).toNat = exponentField bits := by
  rw [unpackExponent_def, BitVec.extractLsb'_toNat, Nat.shiftRight_eq_div_pow]
  rfl

theorem toNat_unpackMantissa (bits : UInt64) :
    (@unpackMantissa Format.binary64 bits.toBitVec).toNat = fractionField bits := by
  rw [unpackMantissa_def, BitVec.extractLsb'_toNat, Nat.shiftRight_eq_div_pow, Nat.pow_zero,
    Nat.div_one]
  rfl

theorem signValue_unpackSign (bits : UInt64) :
    signValue (Sign.ofBitVec (@unpackSign Format.binary64 bits.toBitVec)) =
      if isNegative bits then -1 else 1 := by
  have small := bits.toNat_lt
  have bit : (@unpackSign Format.binary64 bits.toBitVec).toNat = bits.toNat / 2 ^ 63 % 2 := by
    rw [unpackSign_def, BitVec.extractLsb'_toNat, Nat.shiftRight_eq_div_pow]
    rfl
  have clear : @unpackSign Format.binary64 bits.toBitVec = 0#1 ↔ ¬ isNegative bits = true := by
    rw [← BitVec.toNat_inj, bit, isNegative, decide_eq_true_eq]
    simp only [BitVec.toNat_ofNat, Nat.zero_mod]
    omega
  unfold Sign.ofBitVec
  by_cases minus : isNegative bits = true
  · rw [if_neg (by simpa [clear] using minus), if_pos minus, signValue]
  · rw [if_pos (clear.mpr minus), if_neg minus, signValue]

namespace Magnitude

def value (m : Magnitude) : ℚ := m.mantissa * 2 ^ ((m.exponent : ℤ) - 1075)

theorem ratio_eq (m : Magnitude) : (m.numerator : ℚ) / m.denominator = m.value := by
  unfold numerator denominator value
  push_cast
  rcases Nat.le_total 1075 m.exponent with large | small
  · have none : 1075 - m.exponent = 0 := by omega
    have shift : (m.exponent : ℤ) - 1075 = ((m.exponent - 1075 : ℕ) : ℤ) := by omega
    rw [none, pow_zero, div_one, shift, zpow_natCast]
  · have none : m.exponent - 1075 = 0 := by omega
    have shift : (m.exponent : ℤ) - 1075 = -((1075 - m.exponent : ℕ) : ℤ) := by omega
    rw [none, pow_zero, mul_one, shift, zpow_neg, zpow_natCast, div_eq_mul_inv]

end Magnitude

theorem exactValue_eq (x : Float) : exactValue x =
    if exponentField x.toBits = 2047 then none
    else some ((if isNegative x.toBits then -1 else 1) * (Magnitude.ofBits x.toBits).value) := by
  have unpacked : x.toModel.unpack = UnpackedFloat.unpack Format.binary64 x.toBits.toBitVec := rfl
  rw [exactValue, unpacked]
  generalize x.toBits = bits
  have field := toNat_unpackExponent bits
  have fraction := toNat_unpackMantissa bits
  have sign := signValue_unpackSign bits
  have full : @unpackExponent Format.binary64 bits.toBitVec = -1#_ ↔ exponentField bits = 2047 := by
    rw [← BitVec.toNat_inj, field]
    rfl
  have low : @unpackExponent Format.binary64 bits.toBitVec = 0#_ ↔ exponentField bits = 0 := by
    rw [← BitVec.toNat_inj, field]
    rfl
  have none : @unpackMantissa Format.binary64 bits.toBitVec = 0#_ ↔ fractionField bits = 0 := by
    rw [← BitVec.toNat_inj, fraction]
    rfl
  have bias : (Format.binary64.exponentBias : ℤ) + Format.binary64.mantissaBitsWithoutImplicit = 1075 := rfl
  fun_cases UnpackedFloat.unpack Format.binary64 bits.toBitVec with
  | case1 _ _ _ _ special _ => rw [if_pos (full.mp special)]
  | case2 _ _ special _ => rw [if_pos (full.mp special)]
  | case3 _ _ _ _ ordinary subnormal empty =>
    rw [if_neg (mt full.mpr ordinary), Magnitude.ofBits, if_pos (low.mp subnormal)]
    simp [Magnitude.value, none.mp empty]
  | case4 mantissa width exponent bit unpackedSign ordinary subnormal _ =>
    rw [if_neg (mt full.mpr ordinary), Magnitude.ofBits, if_pos (low.mp subnormal), Magnitude.value]
    simp only [exponent, mantissa, width, bit, unpackedSign, sign, fraction, field, bias,
      low.mp subnormal]
    rfl
  | case5 mantissa width exponent bit unpackedSign ordinary normal =>
    rw [if_neg (mt full.mpr ordinary), Magnitude.ofBits, if_neg (mt low.mpr normal), Magnitude.value]
    have hidden : (1#1 ++ @unpackMantissa Format.binary64 bits.toBitVec).toNat =
        2 ^ 52 + fractionField bits := by
      rw [BitVec.toNat_append, fraction, Nat.shiftLeft_eq]
      exact (Nat.two_pow_add_eq_or_of_lt (fraction ▸ BitVec.isLt _) 1).symm
    simp only [exponent, mantissa, width, bit, unpackedSign, sign, hidden, field, bias]

end DistinctCount.Decimal
