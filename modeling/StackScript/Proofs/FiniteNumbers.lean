import Mathlib
import StackScript.Number.Decimal

namespace StackScript.Number

/-!
# Finite numbers

A finite number is determined by its sign and its magnitude pattern, which lies below the pattern of
infinity, and it equals itself.  The only numbers of magnitude zero are zero and negative zero.
-/

open Float.Model (Format)
open Float.Model.UnpackedFloat

/-- Taking a number apart into sign and magnitude and putting it together again changes nothing. -/
theorem ofMagnitude_magnitudeBits
    (x : Float) :
    ofMagnitude (isNegative x) (magnitudeBits x) = x := by
  have inWord : x.toBits.toNat < 2 ^ 64 :=
    x.toBits.toNat_lt
  have isWord :
      (if isNegative x then signBit + magnitudeBits x else magnitudeBits x) = x.toBits.toNat := by
    by_cases isNegative : signBit ≤ x.toBits.toNat
    · rw [Number.isNegative, decide_eq_true isNegative, if_pos rfl]
      simp only [magnitudeBits, signBit] at isNegative ⊢
      omega
    · rw [Number.isNegative, decide_eq_false isNegative, if_neg Bool.false_ne_true]
      simp only [magnitudeBits, signBit] at isNegative ⊢
      omega
  rw [ofMagnitude, isWord, UInt64.ofNat_toNat, Float.ofBits_toBits]

section Finite

variable {x : Float}

/-- The greatest exponent is that of infinity and of undefined numbers. -/
theorem magnitudeBits_lt
    (isFinite : x.isFinite = true) :
    magnitudeBits x < infinityBits := by
  by_contra tooLarge
  have inWord : x.toBits.toNat < 2 ^ 64 :=
    x.toBits.toNat_lt
  have exponent : x.toBits.toNat / 2 ^ 52 % 2 ^ 11 = 2047 := by
    simp only [magnitudeBits, signBit, infinityBits] at tooLarge
    omega
  have greatest : @unpackExponent Format.binary64 x.toBits.toBitVec = -1#_ := by
    apply BitVec.eq_of_toNat_eq
    simpa [unpackExponent, Format.binary64, Nat.shiftRight_eq_div_pow] using exponent
  have notFinite : (unpack Format.binary64 x.toBits.toBitVec).isFinite = false := by
    simp only [unpack, greatest, ↓reduceIte]
    split <;> rfl
  have bothWays : true = false :=
    isFinite.symm.trans notFinite
  cases bothWays

theorem isNaN_of_isFinite
    (isFinite : x.isFinite = true) :
    x.isNaN = false := by
  have ofUnpacked (unpacked : Float.Model.UnpackedFloat) :
      unpacked.isFinite = true → unpacked.isNaN = false := by
    cases unpacked <;> simp [Float.Model.UnpackedFloat.isFinite, isNaN]
  exact ofUnpacked _ isFinite

theorem isInf_of_isFinite
    (isFinite : x.isFinite = true) :
    x.isInf = false := by
  have ofUnpacked (unpacked : Float.Model.UnpackedFloat) :
      unpacked.isFinite = true → unpacked.isInf = false := by
    cases unpacked <;> simp [Float.Model.UnpackedFloat.isFinite, isInf]
  exact ofUnpacked _ isFinite

/-- A number is finite, infinite or undefined. -/
theorem isInf_of_not_isFinite
    (notFinite : x.isFinite = false)
    (notNaN : x.isNaN = false) :
    x.isInf = true := by
  have ofUnpacked (unpacked : Float.Model.UnpackedFloat) :
      unpacked.isFinite = false → unpacked.isNaN = false → unpacked.isInf = true := by
    cases unpacked <;> simp [Float.Model.UnpackedFloat.isFinite, isNaN, isInf]
  exact ofUnpacked _ notFinite notNaN

/-- Finite numbers equal themselves. -/
theorem beq_self_of_isFinite
    (isFinite : x.isFinite = true) :
    (x == x) = true := by
  have ofUnpacked (unpacked : Float.Model.UnpackedFloat) :
      unpacked.isFinite = true → unpacked.beq unpacked = true := by
    cases unpacked with
    | finite sign mantissa exponent positive =>
        cases sign <;>
          simp [Float.Model.UnpackedFloat.beq, Float.Model.UnpackedFloat.compare]
    | zero sign =>
        simp [Float.Model.UnpackedFloat.beq, Float.Model.UnpackedFloat.compare]
    | _ =>
        simp [Float.Model.UnpackedFloat.isFinite]
  exact ofUnpacked _ isFinite

end Finite

theorem ofMagnitude_zero
    (negative : Bool) :
    ofMagnitude negative 0 = if negative then -0 else 0 := by
  cases negative <;> decide +kernel

end StackScript.Number
