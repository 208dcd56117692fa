import DeskCalculator.Proofs.Number.Pattern
import DeskCalculator.Proofs.Number.Rounding

/-! Negation, absolute values and comparisons take a double apart into a sign, a significand
and a power of two. On codes they are simple: the first two touch the sign bit only, and
of two magnitudes the one with the larger code is the larger. -/

namespace DeskCalculator.Number

open Float.Model
open Float.Model.UnpackedFloat

/-! ## Parts -/

theorem significand_pos_iff (code : Nat) : 0 < significand code ↔ 0 < code := by
  rw [significand, binade_eq]
  split <;> omega

def signOf (negative : Bool) : Sign :=
  if negative then .negative else .positive

/-- The parts of a number. -/
def parts (sign : Sign) (code : Nat) : UnpackedFloat :=
  if code = infinityCode then .infinity sign
  else if positive : 0 < significand code then
    .finite sign (significand code) (spacing code - 1074) positive
  else .zero sign

theorem parts_infinityCode (sign : Sign) : parts sign infinityCode = .infinity sign :=
  if_pos rfl

theorem parts_zero (sign : Sign) : parts sign 0 = .zero sign := by
  rw [parts, if_neg (by decide), dif_neg (by decide)]

theorem parts_finite (sign : Sign) {code : Nat} (positive : 0 < significand code)
    (finite : code < infinityCode) :
    parts sign code = .finite sign (significand code) (spacing code - 1074) positive := by
  rw [parts, if_neg (Nat.ne_of_lt finite), dif_pos positive]

theorem finite_eq_finite {sign : Sign} {left right : Nat} {power otherPower : Int}
    {positive : 0 < left} {otherPositive : 0 < right} (significands : left = right)
    (powers : power = otherPower) :
    finite sign left power positive = finite sign right otherPower otherPositive := by
  subst significands
  subst powers
  rfl

theorem toNat_unpackSign (bits : UInt64) :
    (@unpackSign Format.binary64 bits.toBitVec).toNat = bits.toNat / 2 ^ 63 % 2 := by
  simp [unpackSign_def, Nat.shiftRight_eq_div_pow]

section

variable {bits : UInt64} {negative : Bool} {code : Nat}

theorem ofBitVec_unpackSign (bounded : code ≤ infinityCode)
    (number : bits.toNat = (if negative then signCode else 0) + code) :
    Sign.ofBitVec (@unpackSign Format.binary64 bits.toBitVec) = signOf negative := by
  have field := toNat_unpackSign bits
  rw [number, signCode_eq] at field
  rw [infinityCode_eq] at bounded
  cases negative with
  | true =>
      have set : @unpackSign Format.binary64 bits.toBitVec = 1#1 := by
        rw [← BitVec.toNat_inj, field, if_pos rfl]
        show _ = 1
        omega
      rw [set]
      rfl
  | false =>
      have unset : @unpackSign Format.binary64 bits.toBitVec = 0#1 := by
        rw [← BitVec.toNat_inj, field, if_neg Bool.false_ne_true]
        show _ = 0
        omega
      rw [unset]
      rfl

theorem unpack_eq_parts (bounded : code ≤ infinityCode)
    (number : bits.toNat = (if negative then signCode else 0) + code) :
    UnpackedFloat.unpack Format.binary64 bits.toBitVec = parts (signOf negative) code := by
  have infinity := infinityCode_eq
  have sign : (if negative then signCode else 0) % 2 ^ 63 = 0 := by
    cases negative <;> decide
  have exponent : (@unpackExponent Format.binary64 bits.toBitVec).toNat = code / 2 ^ 52 := by
    rw [toNat_unpackExponent, number]
    omega
  have mantissa : (@unpackMantissa Format.binary64 bits.toBitVec).toNat = code % 2 ^ 52 := by
    rw [toNat_unpackMantissa, number]
    omega
  have bias : Format.binary64.exponentBias = 1023 := rfl
  have full : (-1#11).toNat = 2047 := rfl
  have normal : (1#1 ++ @unpackMantissa Format.binary64 bits.toBitVec).toNat =
      2 ^ 52 + code % 2 ^ 52 := by
    rw [BitVec.toNat_append, ← mantissa]
    exact (Nat.shiftLeft_add_eq_or_of_lt (BitVec.isLt _) 1).symm
  simp only [UnpackedFloat.unpack, ofBitVec_unpackSign bounded number, ← BitVec.toNat_inj,
    exponent, mantissa, full, BitVec.toNat_zero, bias, normal]
  -- The exponent is largest for infinity, and a smallest one has no leading bit.
  rcases Nat.eq_or_lt_of_le bounded with topmost | finite
  · subst topmost
    rw [parts_infinityCode, if_pos (by omega), if_pos (by omega)]
  · rw [if_neg (by omega)]
    by_cases empty : code = 0
    · subst empty
      rw [parts_zero, if_pos (by omega), dif_pos (by omega)]
    · have positive := (significand_pos_iff code).mpr (Nat.pos_of_ne_zero empty)
      rw [parts_finite _ positive finite]
      split
      · rw [dif_neg (by omega)]
        refine finite_eq_finite ?_ ?_
        · rw [significand, if_pos (by rw [binade_eq]; omega), Nat.mod_eq_of_lt (by omega)]
        · rw [spacing, binade_eq]
          omega
      · refine finite_eq_finite ?_ ?_
        · rw [significand, if_neg (by rw [binade_eq]; omega), binade_eq]
          omega
        · rw [spacing, binade_eq]
          omega

theorem unpack_ofCode (negative : Bool) (bounded : code ≤ infinityCode) :
    (ofCode negative code).toModel.unpack = parts (signOf negative) code :=
  unpack_eq_parts bounded (toNat_toBits_ofCode negative bounded)

/-! ## Negation and absolute values -/

theorem neg_parts (negative : Bool) (code : Nat) :
    (parts (signOf negative) code).neg = parts (signOf !negative) code := by
  have opposite : -signOf negative = signOf !negative := by
    cases negative <;> rfl
  unfold parts
  split
  · rw [UnpackedFloat.neg, opposite]
  · split <;> rw [UnpackedFloat.neg, opposite]

theorem abs_parts (sign : Sign) (code : Nat) :
    (parts sign code).abs = parts .positive code := by
  unfold parts
  split
  · rfl
  · split <;> rfl

theorem ofModel_pack_unpack (value : Float) :
    Float.ofModel (Float.Model.pack value.toModel.unpack) = value :=
  Float.ofBits_toBits value

theorem neg_ofCode (negative : Bool) (bounded : code ≤ infinityCode) :
    -ofCode negative code = ofCode (!negative) code := by
  have model : -ofCode negative code =
      Float.ofModel (Float.Model.pack (ofCode negative code).toModel.unpack.neg) := rfl
  rw [model, unpack_ofCode negative bounded, neg_parts, ← unpack_ofCode _ bounded,
    ofModel_pack_unpack]

theorem abs_ofCode (negative : Bool) (bounded : code ≤ infinityCode) :
    (ofCode negative code).abs = ofCode false code := by
  have model : (ofCode negative code).abs =
      Float.ofModel (Float.Model.pack (ofCode negative code).toModel.unpack.abs) := rfl
  rw [model, unpack_ofCode negative bounded, abs_parts]
  have positive : parts .positive code = _ := (unpack_ofCode false bounded).symm
  rw [positive, ofModel_pack_unpack]

end

theorem abs_eq_ofCode {value : Float} (number : codeOf value ≤ infinityCode) :
    value.abs = ofCode false (codeOf value) := by
  have size := abs_ofCode (isNegative value) number
  rwa [ofCode_codeOf] at size

/-! ## Comparisons -/

section

variable {left right : Nat}

/-- The spacing decides, and of magnitudes with the same spacing the significand. -/
theorem spacing_lt_or_significand_lt (less : left < right) :
    spacing left < spacing right ∨
      spacing left = spacing right ∧ significand left < significand right := by
  have leftPlace := spacing_mul_binade_add_significand left
  have rightPlace := spacing_mul_binade_add_significand right
  have leftBound := significand_lt left
  have leftNormal := spacing_eq_zero_or_binade_le left
  have rightBound := significand_lt right
  rw [binade_eq] at leftPlace rightPlace leftBound leftNormal rightBound
  omega

theorem compare_places (left right : Nat) :
    (compare ((spacing left : Int) - 1074) (spacing right - 1074)).then
      (compare (significand left) (significand right)) = compare left right := by
  rcases Nat.lt_trichotomy left right with less | equal | greater
  · rw [Nat.compare_eq_lt.mpr less]
    rcases spacing_lt_or_significand_lt less with closer | ⟨alike, smaller⟩
    · rw [Int.compare_eq_lt.mpr (by omega), Ordering.lt_then]
    · rw [alike, Int.compare_eq_eq.mpr rfl, Nat.compare_eq_lt.mpr smaller]
      rfl
  · rw [equal, Int.compare_eq_eq.mpr rfl, Nat.compare_eq_eq.mpr rfl, Nat.compare_eq_eq.mpr rfl]
    rfl
  · rw [Nat.compare_eq_gt.mpr greater]
    rcases spacing_lt_or_significand_lt greater with closer | ⟨alike, smaller⟩
    · rw [Int.compare_eq_gt.mpr (by omega), Ordering.gt_then]
    · rw [alike, Int.compare_eq_eq.mpr rfl, Nat.compare_eq_gt.mpr smaller]
      rfl

/-- A magnitude is zero, finite with a significand, or infinite. -/
theorem parts_cases (sign : Sign) {code : Nat} (bounded : code ≤ infinityCode) :
    (code = 0 ∧ parts sign code = .zero sign) ∨
      (∃ positive, 0 < code ∧ code < infinityCode ∧
        parts sign code = .finite sign (significand code) (spacing code - 1074) positive) ∨
      code = infinityCode ∧ parts sign code = .infinity sign := by
  rcases Nat.eq_or_lt_of_le bounded with rfl | finite
  · exact .inr (.inr ⟨rfl, parts_infinityCode sign⟩)
  · rcases Nat.eq_zero_or_pos code with rfl | some
    · exact .inl ⟨rfl, parts_zero sign⟩
    · have positive := (significand_pos_iff code).mpr some
      exact .inr (.inl ⟨positive, some, finite, parts_finite sign positive finite⟩)

theorem compare_parts (leftBounded : left ≤ infinityCode) (rightBounded : right ≤ infinityCode) :
    (parts .positive left).compare (parts .positive right) = some (compare left right) := by
  have topmost : 0 < infinityCode := by decide
  rcases parts_cases .positive leftBounded with
    ⟨leftZero, leftParts⟩ | ⟨_, leftSome, leftFinite, leftParts⟩ | ⟨leftTop, leftParts⟩
  · rcases parts_cases .positive rightBounded with
      ⟨rightZero, rightParts⟩ | ⟨_, rightSome, -, rightParts⟩ | ⟨rightTop, rightParts⟩
    · rw [leftParts, rightParts, Nat.compare_eq_eq.mpr (by omega)]
      rfl
    · rw [leftParts, rightParts, Nat.compare_eq_lt.mpr (by omega)]
      rfl
    · rw [leftParts, rightParts, Nat.compare_eq_lt.mpr (by omega)]
      rfl
  · rcases parts_cases .positive rightBounded with
      ⟨rightZero, rightParts⟩ | ⟨_, -, -, rightParts⟩ | ⟨rightTop, rightParts⟩
    · rw [leftParts, rightParts, Nat.compare_eq_gt.mpr (by omega)]
      rfl
    · rw [leftParts, rightParts, ← compare_places left right]
      rfl
    · rw [leftParts, rightParts, Nat.compare_eq_lt.mpr (by omega)]
      rfl
  · rcases parts_cases .positive rightBounded with
      ⟨rightZero, rightParts⟩ | ⟨_, -, rightFinite, rightParts⟩ | ⟨rightTop, rightParts⟩
    · rw [leftParts, rightParts, Nat.compare_eq_gt.mpr (by omega)]
      rfl
    · rw [leftParts, rightParts, Nat.compare_eq_gt.mpr (by omega)]
      rfl
    · rw [leftParts, rightParts, Nat.compare_eq_eq.mpr (by omega)]
      rfl

theorem compare_ofCode (leftBounded : left ≤ infinityCode) (rightBounded : right ≤ infinityCode) :
    (ofCode false left).toModel.unpack.compare (ofCode false right).toModel.unpack =
      some (compare left right) := by
  rw [unpack_ofCode false leftBounded, unpack_ofCode false rightBounded]
  exact compare_parts leftBounded rightBounded

theorem ofCode_le_ofCode (leftBounded : left ≤ infinityCode)
    (rightBounded : right ≤ infinityCode) :
    ofCode false left ≤ ofCode false right ↔ left ≤ right := by
  have model : ofCode false left ≤ ofCode false right ↔
      (ofCode false left).toModel.unpack.le (ofCode false right).toModel.unpack = true :=
    decide_eq_true_iff
  rw [model, UnpackedFloat.le, compare_ofCode leftBounded rightBounded, Option.any_some,
    Nat.isLE_compare]

theorem ofCode_lt_ofCode (leftBounded : left ≤ infinityCode)
    (rightBounded : right ≤ infinityCode) :
    ofCode false left < ofCode false right ↔ left < right := by
  have model : ofCode false left < ofCode false right ↔
      (ofCode false left).toModel.unpack.lt (ofCode false right).toModel.unpack = true :=
    decide_eq_true_iff
  rw [model, UnpackedFloat.lt, compare_ofCode leftBounded rightBounded, ← Nat.compare_eq_lt]
  cases compare left right <;> decide

end

end DeskCalculator.Number
