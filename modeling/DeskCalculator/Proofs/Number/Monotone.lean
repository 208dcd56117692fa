import DeskCalculator.Proofs.Number.Value

/-! Of two fractions the larger one is never rounded to a smaller code, whether the two lie in
one binade or not. So the decimals that are rounded to one code have no gaps between them. -/

namespace DeskCalculator.Number

/-! A quotient is rounded to the whole number below it or to the next. -/

theorem div_le_nearestQuotient (numerator denominator : Nat) :
    numerator / denominator ≤ nearestQuotient numerator denominator := by
  simp only [nearestQuotient]
  split
  · exact Nat.le_refl _
  · split
    · exact Nat.le_succ _
    · exact Nat.le_add_right _ _

theorem nearestQuotient_le_succ (numerator denominator : Nat) :
    nearestQuotient numerator denominator ≤ numerator / denominator + 1 := by
  simp only [nearestQuotient]
  split
  · exact Nat.le_succ _
  · split
    · exact Nat.le_refl _
    · exact Nat.add_le_add_left (Nat.le_of_lt_succ (Nat.mod_lt _ Nat.two_pos)) _

theorem nearestQuotient_mono {numerator larger : Nat} (denominator : Nat)
    (le : numerator ≤ larger) :
    nearestQuotient numerator denominator ≤ nearestQuotient larger denominator := by
  have quotients : numerator / denominator ≤ larger / denominator := Nat.div_le_div_right le
  rcases Nat.lt_or_eq_of_le quotients with less | equal
  · calc
      nearestQuotient numerator denominator ≤ numerator / denominator + 1 :=
        nearestQuotient_le_succ _ _
      _ ≤ larger / denominator := less
      _ ≤ nearestQuotient larger denominator := div_le_nearestQuotient _ _
  · have whole := Nat.div_add_mod numerator denominator
    have wholeLarger := Nat.div_add_mod larger denominator
    rw [← equal] at wholeLarger
    have remainders : numerator % denominator ≤ larger % denominator := by omega
    simp only [nearestQuotient, ← equal]
    -- Only the remainders tell which way the two are rounded.
    generalize numerator / denominator = quotient
    split_ifs <;> omega

/-! The spacing follows from the size, and leaves a quotient of at most 53 bits; of exactly
53 bits if it is more than a single unit. -/

theorem div_spacing_lt (units : Nat) :
    units / Nat.pow 2 (units.log2 - 52) < 2 * binade := by
  have bits : 2 * binade = 2 ^ 53 := rfl
  have positive : 0 < Nat.pow 2 (units.log2 - 52) := Nat.two_pow_pos _
  rw [Nat.div_lt_iff_lt_mul positive, bits]
  calc
    units < 2 ^ (units.log2 + 1) := Nat.lt_log2_self
    _ ≤ 2 ^ (53 + (units.log2 - 52)) := Nat.pow_le_pow_right Nat.two_pos (by omega)
    _ = 2 ^ 53 * Nat.pow 2 (units.log2 - 52) := Nat.pow_add 2 53 _

theorem binade_le_div_spacing {units : Nat} (spaced : units.log2 - 52 ≠ 0) :
    binade ≤ units / Nat.pow 2 (units.log2 - 52) := by
  have some : units ≠ 0 := by
    rintro rfl
    exact spaced (by decide)
  have positive : 0 < Nat.pow 2 (units.log2 - 52) := Nat.two_pow_pos _
  rw [Nat.le_div_iff_mul_le positive]
  calc
    binade * Nat.pow 2 (units.log2 - 52) = 2 ^ (52 + (units.log2 - 52)) :=
      (Nat.pow_add 2 52 _).symm
    _ ≤ 2 ^ units.log2 := Nat.pow_le_pow_right Nat.two_pos (by omega)
    _ ≤ units := Nat.log2_self_le some

theorem log2_le_log2 {units larger : Nat} (le : units ≤ larger) : units.log2 ≤ larger.log2 := by
  by_cases none : units = 0
  · rw [none, Nat.log2_zero]
    exact Nat.zero_le _
  · have some : larger ≠ 0 := by omega
    exact (Nat.le_log2 some).mpr (Nat.le_trans (Nat.log2_self_le none) le)

theorem nearestCode_mono {numerator larger : Nat} (denominator : Nat)
    (le : numerator ≤ larger) :
    nearestCode numerator denominator ≤ nearestCode larger denominator := by
  have units : numerator * unitsOfOne ≤ larger * unitsOfOne :=
    Nat.mul_le_mul_right _ le
  have closer := log2_le_log2 (Nat.div_le_div_right units : _ / denominator ≤ _ / denominator)
  simp only [nearestCode]
  generalize numerator * unitsOfOne = smaller at *
  generalize larger * unitsOfOne = greater at *
  refine min_le_min_left infinityCode ?_
  rcases Nat.eq_or_lt_of_le (Nat.sub_le_sub_right closer 52) with same | wider
  · rw [same]
    exact Nat.add_le_add_left (nearestQuotient_mono _ units) _
  · -- The larger is beyond the binade of the smaller, which ends where the next begins.
    have upper := nearestQuotient_le_succ smaller
      (denominator * Nat.pow 2 ((smaller / denominator).log2 - 52))
    have lower := div_le_nearestQuotient greater
      (denominator * Nat.pow 2 ((greater / denominator).log2 - 52))
    have below := div_spacing_lt (smaller / denominator)
    have above := binade_le_div_spacing (Nat.ne_of_gt (Nat.zero_lt_of_lt wider))
    rw [← Nat.div_div_eq_div_mul] at upper lower
    have steps := Nat.mul_le_mul_right binade wider
    rw [Nat.succ_mul] at steps
    omega

namespace Decimal

theorem code_mono {left right : Decimal} (le : left.value ≤ right.value) :
    left.code ≤ right.code := by
  rcases exists_value_eq_div left with ⟨numerator, denominator, positive, value⟩
  rcases exists_value_eq_div right with ⟨other, otherDenominator, otherPositive, otherValue⟩
  rw [value, otherValue, div_le_div_iff₀ (by exact_mod_cast positive)
    (by exact_mod_cast otherPositive)] at le
  have products : numerator * otherDenominator ≤ other * denominator := by exact_mod_cast le
  calc
    left.code = nearestCode (numerator * otherDenominator) (denominator * otherDenominator) := by
      rw [code_eq_of_value_eq_div positive value, nearestCode_mul_right _ _ otherPositive]
    _ ≤ nearestCode (other * denominator) (denominator * otherDenominator) :=
      nearestCode_mono _ products
    _ = right.code := by
      rw [Nat.mul_comm denominator, nearestCode_mul_right _ _ positive,
        ← code_eq_of_value_eq_div otherPositive otherValue]

/-- What lies between two decimals of one code has that code. -/
theorem code_eq_of_between {left between right : Decimal} {code : Nat}
    (leftCode : left.code = code) (rightCode : right.code = code)
    (above : left.value ≤ between.value) (below : between.value ≤ right.value) :
    between.code = code :=
  Nat.le_antisymm (rightCode ▸ code_mono below) (leftCode ▸ code_mono above)

theorem value_lt_of_code_lt {left right : Decimal} (less : left.code < right.code) :
    left.value < right.value :=
  lt_of_not_ge fun le => Nat.not_le_of_lt less (code_mono le)

end Decimal

end DeskCalculator.Number
