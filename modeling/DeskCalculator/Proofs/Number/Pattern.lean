import DeskCalculator.Number.Magnitude
import Mathlib

/-! A double is its pattern of 64 bits. Taking a pattern for a double and looking at
its pattern again changes nothing, unless the pattern is a not-a-number: of those
there is only one double. No part of Mathlib brings the lemmas on packed doubles, so it is
imported as a whole here and nowhere else. -/

namespace DeskCalculator.Number

open Float.Model
open Float.Model.UnpackedFloat

section

variable (bits : UInt64)

theorem toNat_unpackExponent :
    (@unpackExponent Format.binary64 bits.toBitVec).toNat =
      bits.toNat / 2 ^ 52 % 2 ^ 11 := by
  simp [unpackExponent_def, Nat.shiftRight_eq_div_pow]

theorem toNat_unpackMantissa :
    (@unpackMantissa Format.binary64 bits.toBitVec).toNat = bits.toNat % 2 ^ 52 := by
  simp [unpackMantissa_def]

/-- The codes above that of infinity are the not-a-numbers. -/
theorem isNaNBits_iff :
    @isNaNBits Format.binary64 bits.toBitVec = true ↔
      infinityCode < bits.toNat % signCode := by
  have infinity : infinityCode = 2047 * 2 ^ 52 := rfl
  have sign : signCode = 2 ^ 63 := rfl
  have ones : (-1#11).toNat = 2047 := rfl
  rw [isNaNBits, decide_eq_true_eq, Ne, ← BitVec.toNat_inj, ← BitVec.toNat_inj,
    toNat_unpackExponent, toNat_unpackMantissa, infinity, sign, ones, BitVec.toNat_zero]
  omega

theorem toBits_ofBits_eq :
    (Float.ofBits bits).toBits =
      if infinityCode < bits.toNat % signCode then notANumber.toBits else bits := by
  have packed : (Float.ofBits bits).toBits = UInt64.ofBitVec
      (if @isNaNBits Format.binary64 bits.toBitVec then packedNaN Format.binary64
      else bits.toBitVec) :=
    congrArg UInt64.ofBitVec (@pack_unpack Format.binary64 bits.toBitVec (by decide))
  simp only [packed, isNaNBits_iff]
  split
  · decide +kernel
  · rfl

end

section

variable {bits : UInt64} {value : Float}

theorem toBits_ofBits (number : bits.toNat % signCode ≤ infinityCode) :
    (Float.ofBits bits).toBits = bits := by
  rw [toBits_ofBits_eq, if_neg (Nat.not_lt_of_le number)]

theorem isNotANumber_ofBits (beyond : infinityCode < bits.toNat % signCode) :
    isNotANumber (Float.ofBits bits) = true := by
  rw [isNotANumber, codeOf, toBits_ofBits_eq, if_pos beyond]
  decide +kernel

theorem eq_notANumber (beyond : infinityCode < codeOf value) : value = notANumber := by
  have same := toBits_ofBits_eq value.toBits
  rw [Float.ofBits_toBits] at same
  exact Float.toBits_inj.1 (same.trans (if_pos beyond))

end

theorem toNat_toBits_ofCode (negative : Bool) {code : Nat} (bounded : code ≤ infinityCode) :
    (ofCode negative code).toBits.toNat = (if negative then signCode else 0) + code := by
  have infinity : infinityCode = 2047 * 2 ^ 52 := rfl
  have sign : signCode = 2 ^ 63 := rfl
  let bits := UInt64.ofNat ((if negative then signCode else 0) + code)
  have number : bits.toNat = (if negative then signCode else 0) + code := by
    rw [UInt64.toNat_ofNat']
    apply Nat.mod_eq_of_lt
    split <;> omega
  have magnitude : bits.toNat % signCode ≤ infinityCode := by
    rw [number, sign]
    split <;> omega
  rw [ofCode, toBits_ofBits magnitude, number]

theorem codeOf_ofCode (negative : Bool) {code : Nat} (bounded : code ≤ infinityCode) :
    codeOf (ofCode negative code) = code := by
  have infinity : infinityCode = 2047 * 2 ^ 52 := rfl
  have sign : signCode = 2 ^ 63 := rfl
  rw [codeOf, toNat_toBits_ofCode negative bounded, sign]
  split <;> omega

/-- A double is its sign and its code. -/
theorem ofCode_codeOf (value : Float) : ofCode (isNegative value) (codeOf value) = value := by
  have bounded : value.toBits.toNat < 2 ^ 64 := value.toBits.toNat_lt
  have sign : signCode = 2 ^ 63 := rfl
  have bits : (if isNegative value then signCode else 0) + codeOf value =
      value.toBits.toNat := by
    simp only [isNegative, codeOf, decide_eq_true_eq]
    rw [sign]
    split <;> omega
  rw [ofCode, bits, UInt64.ofNat_toNat, Float.ofBits_toBits]

end DeskCalculator.Number
