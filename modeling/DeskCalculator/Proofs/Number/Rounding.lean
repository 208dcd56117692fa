import DeskCalculator.Number.Magnitude

/-! Rounding sees the value of a fraction and not its terms, it gives a finite
magnitude its own code back, and it decides very small and very large fractions
by their size alone. -/

namespace DeskCalculator.Number

theorem binade_eq : binade = 0x10000000000000 :=
  rfl

theorem infinityCode_eq : infinityCode = 0x7FF0000000000000 :=
  rfl

theorem signCode_eq : signCode = 0x8000000000000000 :=
  rfl

theorem binade_pos : 0 < binade :=
  Nat.two_pow_pos 52

/-! Equal fractions round alike. -/

section

variable {factor : Nat}

theorem nearestQuotient_mul_right (numerator denominator : Nat) (positive : 0 < factor) :
    nearestQuotient (numerator * factor) (denominator * factor) =
      nearestQuotient numerator denominator := by
  have quotient : numerator * factor / (denominator * factor) = numerator / denominator :=
    Nat.mul_div_mul_right numerator denominator positive
  have remainder :
      numerator * factor % (denominator * factor) = numerator % denominator * factor :=
    Nat.mul_mod_mul_right factor numerator denominator
  have doubled :
      2 * (numerator % denominator * factor) = 2 * (numerator % denominator) * factor :=
    (Nat.mul_assoc 2 _ factor).symm
  simp only [nearestQuotient, quotient, remainder, doubled, Nat.mul_lt_mul_right positive]

theorem nearestCode_mul_right (numerator denominator : Nat) (positive : 0 < factor) :
    nearestCode (numerator * factor) (denominator * factor) =
      nearestCode numerator denominator := by
  have units : numerator * factor * unitsOfOne = numerator * unitsOfOne * factor :=
    Nat.mul_right_comm numerator factor _
  have spaced (spacing : Nat) :
      denominator * factor * Nat.pow 2 spacing =
        denominator * Nat.pow 2 spacing * factor :=
    Nat.mul_right_comm denominator factor _
  simp only [nearestCode, units, spaced, Nat.mul_div_mul_right _ _ positive,
    nearestQuotient_mul_right _ _ positive]

theorem nearestCode_eq_of_mul_eq {numerator denominator other otherDenominator : Nat}
    (positive : 0 < denominator) (otherPositive : 0 < otherDenominator)
    (equal : numerator * otherDenominator = other * denominator) :
    nearestCode numerator denominator = nearestCode other otherDenominator :=
  calc
    nearestCode numerator denominator
        = nearestCode (numerator * otherDenominator) (denominator * otherDenominator) :=
      (nearestCode_mul_right numerator denominator otherPositive).symm
    _ = nearestCode (other * denominator) (otherDenominator * denominator) := by
      rw [equal, Nat.mul_comm denominator]
    _ = nearestCode other otherDenominator :=
      nearestCode_mul_right other otherDenominator positive

end

/-! A finite magnitude is a significand of at most 53 bits and the spacing of its
binade. The significand has 53 bits unless the spacing is a single unit. -/

def significand (code : Nat) : Nat :=
  if code < binade then code else binade + code % binade

/-- How many doublings of a unit the spacing is. -/
def spacing (code : Nat) : Nat :=
  code / binade - 1

section

variable (code : Nat)

theorem spacing_mul_binade_add_significand : spacing code * binade + significand code = code := by
  rw [spacing, significand, binade_eq]
  split <;> omega

theorem significand_lt : significand code < 2 * binade := by
  rw [significand, binade_eq]
  split <;> omega

theorem spacing_eq_zero_or_binade_le : spacing code = 0 ∨ binade ≤ significand code := by
  rw [spacing, significand, binade_eq]
  split <;> omega

theorem unitsOfCode_eq : unitsOfCode code = significand code * Nat.pow 2 (spacing code) := by
  unfold unitsOfCode significand
  split
  · rename_i subnormal
    rw [spacing, Nat.div_eq_of_lt subnormal, Nat.zero_sub]
    exact (Nat.mul_one code).symm
  · rfl

theorem log2_unitsOfCode : (unitsOfCode code).log2 - 52 = spacing code := by
  have bits : 2 * binade = 2 ^ 53 := rfl
  have bounded := significand_lt code
  rw [unitsOfCode_eq]
  rcases spacing_eq_zero_or_binade_le code with single | normal
  · rw [single]
    by_cases zero : significand code = 0
    · simp [zero]
    · have log := (Nat.log2_lt zero).2 (bits ▸ bounded)
      simp only [Nat.pow_eq, Nat.pow_zero, Nat.mul_one]
      omega
  · have positive : significand code * 2 ^ spacing code ≠ 0 :=
      Nat.mul_ne_zero (Nat.ne_of_gt (Nat.lt_of_lt_of_le binade_pos normal))
        (Nat.ne_of_gt (Nat.two_pow_pos (spacing code)))
    have log : (significand code * 2 ^ spacing code).log2 = 52 + spacing code := by
      rw [Nat.log2_eq_iff positive]
      constructor
      · rw [Nat.pow_add]
        exact Nat.mul_le_mul_right _ normal
      · rw [Nat.add_right_comm, Nat.pow_add]
        exact Nat.mul_lt_mul_of_pos_right bounded (Nat.two_pow_pos (spacing code))
    simp only [Nat.pow_eq, log]
    omega

end

theorem nearestQuotient_mul_self (quotient : Nat) {denominator : Nat}
    (positive : 0 < denominator) :
    nearestQuotient (quotient * denominator) denominator = quotient := by
  simp [nearestQuotient, Nat.mul_div_cancel _ positive, positive]

/-- The exponent is kept out of the goals, since no tactic is to compute the power. -/
theorem exists_unitsOfOne_eq :
    ∃ exponent, exponent = 1074 ∧ unitsOfOne = Nat.pow 2 exponent :=
  ⟨1074, by decide +kernel⟩

theorem unitsOfOne_pos : 0 < unitsOfOne := by
  decide +kernel

/-- Rounding the exact value of a finite magnitude changes nothing. -/
theorem nearestCode_unitsOfCode {code : Nat} (finite : code < infinityCode) :
    nearestCode (unitsOfCode code) unitsOfOne = code := by
  have scaled : unitsOfCode code * unitsOfOne =
      significand code * (unitsOfOne * Nat.pow 2 (spacing code)) := by
    rw [unitsOfCode_eq, Nat.mul_assoc, Nat.mul_comm (Nat.pow 2 (spacing code))]
  have quotient :
      nearestQuotient (unitsOfCode code * unitsOfOne)
        (unitsOfOne * Nat.pow 2 (spacing code)) = significand code := by
    rw [scaled]
    exact nearestQuotient_mul_self (significand code)
      (Nat.mul_pos unitsOfOne_pos (Nat.two_pow_pos (spacing code)))
  rw [nearestCode, Nat.mul_div_cancel _ unitsOfOne_pos, log2_unitsOfCode, quotient,
    spacing_mul_binade_add_significand]
  exact Nat.min_eq_right (Nat.le_of_lt finite)

/-! Beyond the finite magnitudes, and below half of the smallest. -/

theorem nearestCode_eq_infinityCode {numerator denominator power : Nat}
    (positive : 0 < denominator) (far : 1025 ≤ power)
    (large : denominator * Nat.pow 2 power ≤ numerator) :
    nearestCode numerator denominator = infinityCode := by
  rcases exists_unitsOfOne_eq with ⟨exponent, exponent_eq, units_eq : unitsOfOne = 2 ^ exponent⟩
  have least : 2 ^ (power + exponent) ≤ numerator * unitsOfOne / denominator := by
    rw [Nat.le_div_iff_mul_le positive, Nat.pow_add, ← units_eq, Nat.mul_comm,
      ← Nat.mul_assoc]
    exact Nat.mul_le_mul_right _ large
  have some : numerator * unitsOfOne / denominator ≠ 0 :=
    Nat.ne_of_gt (Nat.lt_of_lt_of_le (Nat.two_pow_pos _) least)
  have log := (Nat.le_log2 some).2 least
  have spacing : 0x7FF * binade ≤
      ((numerator * unitsOfOne / denominator).log2 - 52) * binade :=
    Nat.mul_le_mul_right _ (by omega)
  exact Nat.min_eq_left (Nat.le_trans spacing (Nat.le_add_right _ _))

theorem nearestCode_eq_zero {numerator denominator : Nat}
    (small : 2 * (numerator * unitsOfOne) < denominator) :
    nearestCode numerator denominator = 0 := by
  have below : numerator * unitsOfOne < denominator := by omega
  have rounded : nearestQuotient (numerator * unitsOfOne) denominator = 0 := by
    rw [nearestQuotient, Nat.mod_eq_of_lt below, if_pos small, Nat.div_eq_of_lt below]
  have single : denominator * Nat.pow 2 0 = denominator := Nat.mul_one denominator
  rw [nearestCode, Nat.div_eq_of_lt below, Nat.log2_zero, Nat.zero_sub, Nat.zero_mul,
    Nat.zero_add, single, rounded, Nat.min_zero]

end DeskCalculator.Number
