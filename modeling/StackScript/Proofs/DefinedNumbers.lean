import Mathlib
import StackScript.Number.Decimal

namespace StackScript.Number

/-!
# Decimal numbers are defined

The nearest 64-bit number of a decimal number is never the undefined one.  What is too large becomes
infinity, and the pattern of infinity is the least with the greatest exponent, so no pattern that is
made has that exponent and a mantissa as well.
-/

open Float.Model (Format)
open Float.Model.UnpackedFloat

/-- Patterns up to that of infinity, with any sign, stand for numbers. -/
theorem isNaNBits_eq_false
    {word : Nat}
    (inRange : word < 2 ^ 64)
    (bounded : word % 2 ^ 63 ≤ 2047 * 2 ^ 52) :
    @isNaNBits Format.binary64 (UInt64.ofNat word).toBitVec = false := by
  simp only [isNaNBits, decide_eq_false_iff_not, not_and, not_not]
  intro greatest
  have exponent : word / 2 ^ 52 % 2 ^ 11 = 2047 := by
    have inWord : word % 18446744073709551616 = word :=
      Nat.mod_eq_of_lt inRange
    simpa [unpackExponent, Format.binary64, Nat.shiftRight_eq_div_pow, inWord] using
      congrArg BitVec.toNat greatest
  have mantissa : word % 2 ^ 52 = 0 := by
    omega
  apply BitVec.eq_of_toNat_eq
  simpa [unpackMantissa, Format.binary64] using mantissa

theorem isNaN_ofMagnitude
    (negative : Bool)
    {bits : Nat}
    (bounded : bits ≤ infinityBits) :
    (ofMagnitude negative bits).isNaN = false := by
  change (unpack Format.binary64 (pack Format.binary64 (unpack Format.binary64 _))).isNaN = false
  generalize isWord : (if negative then signBit + bits else bits) = word
  have magnitude : word < 2 ^ 64 ∧ word % 2 ^ 63 ≤ 2047 * 2 ^ 52 := by
    simp only [infinityBits, signBit] at isWord bounded
    split at isWord <;> omega
  have isNumber := isNaNBits_eq_false magnitude.1 magnitude.2
  rw [Bool.eq_false_iff, ne_eq, isNaN_unpack_iff_of_valid valid_pack, pack_unpack, isNumber,
    if_neg Bool.false_ne_true]
  intro isNaN
  rw [isNaN, isNaNBits_packedNaN] at isNumber
  cases isNumber

theorem Decimal.bitsOf_le
    (digits : Nat)
    (exponent : Int) :
    bitsOf digits exponent ≤ infinityBits := by
  have ofRatio (numerator denominator : Nat) : bitsOfRatio numerator denominator ≤ infinityBits :=
    Nat.min_le_left _ _
  unfold bitsOf
  split
  · exact Nat.zero_le _
  · split
    · exact Nat.le_refl _
    · split
      · exact Nat.zero_le _
      · split
        · exact ofRatio _ _
        · exact ofRatio _ _

/-- A decimal number is never read as an undefined one. -/
theorem Decimal.isNaN_toFloat
    (decimal : Decimal) :
    decimal.toFloat.isNaN = false :=
  isNaN_ofMagnitude decimal.negative (bitsOf_le decimal.digits decimal.exponent)

end StackScript.Number
