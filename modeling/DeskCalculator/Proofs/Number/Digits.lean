import DeskCalculator.Proofs.Number.Value
import DeskCalculator.Proofs.Text.Digit

/-! Where the point stands among the digits of a decimal tells its size up to a factor of ten.
Among the decimals of one value, the one without zeros at its end has the fewest digits. -/

namespace DeskCalculator.Number.Decimal

open Text

theorem value_eq_zero_iff (decimal : Decimal) : decimal.value = 0 ↔ decimal.digits = 0 := by
  have scale : (10 : ℚ) ^ decimal.exponent ≠ 0 := zpow_ne_zero _ (by norm_num)
  rw [value, mul_eq_zero_iff_right scale, Nat.cast_eq_zero]

theorem value_one (power : Int) : value ⟨1, power⟩ = 10 ^ power := by
  rw [value, Nat.cast_one, one_mul]

theorem code_of_digits_eq_zero {decimal : Decimal} (none : decimal.digits = 0) :
    decimal.code = 0 := by
  have value : decimal.value = (0 : ℕ) / (1 : ℕ) := by
    rw [(value_eq_zero_iff decimal).mpr none, Nat.cast_zero, zero_div]
  rw [code_eq_of_value_eq_div Nat.one_pos value, nearestCode_zero Nat.one_pos]

/-! ## The point -/

section

variable {decimal : Decimal}

theorem value_lt_pow_point (decimal : Decimal) : decimal.value < 10 ^ decimal.point := by
  have digits : (decimal.digits : ℚ) < 10 ^ decimal.digitText.length := by
    exact_mod_cast lt_pow_length_digitsOfNatural decimal.digits
  rw [value, point, zpow_add₀ (by norm_num), zpow_natCast]
  exact mul_lt_mul_of_pos_right digits (zpow_pos (by norm_num) _)

theorem pow_point_le_value (some : decimal.digits ≠ 0) :
    10 ^ (decimal.point - 1) ≤ decimal.value := by
  have digits : (10 : ℚ) ^ (decimal.digitText.length - 1) ≤ decimal.digits := by
    exact_mod_cast pow_length_digitsOfNatural_le some
  have positive : 1 ≤ decimal.digitText.length :=
    List.length_pos_iff.mpr (digitsOfNatural_ne_nil decimal.digits)
  have split : decimal.point - 1 =
      (decimal.digitText.length - 1 : ℕ) + decimal.exponent := by
    rw [point]
    omega
  rw [value, split, zpow_add₀ (by norm_num), zpow_natCast]
  exact mul_le_mul_of_nonneg_right digits (zpow_nonneg (by norm_num) _)

theorem point_le_of_value_lt {power : Int} (some : decimal.digits ≠ 0)
    (below : decimal.value < 10 ^ power) : decimal.point ≤ power := by
  have less := lt_of_le_of_lt (pow_point_le_value some) below
  rw [zpow_lt_zpow_iff_right₀ (by norm_num)] at less
  omega

theorem lt_point_of_le_value {power : Int} (above : 10 ^ power ≤ decimal.value) :
    power < decimal.point := by
  have less := lt_of_le_of_lt above (value_lt_pow_point decimal)
  rwa [zpow_lt_zpow_iff_right₀ (by norm_num)] at less

end

/-! ## Zeros at the end -/

theorem stripped_cases (decimal : Decimal) :
    decimal.stripped.digits = 0 ∨ decimal.stripped.digits % 10 ≠ 0 := by
  induction decimal using stripped_induction with
  | zero decimal none stripped => exact .inl (by rw [stripped])
  | further digits exponent some stripped induction => rwa [stripped]
  | last decimal ends stripped => exact .inr (by rwa [stripped])

theorem digits_ne_zero {decimal : Decimal} (last : decimal.digits % 10 ≠ 0) :
    decimal.digits ≠ 0 :=
  fun zero => last (by rw [zero])

theorem getLast?_digitText {decimal : Decimal} (last : decimal.digits % 10 ≠ 0) :
    decimal.digitText.getLast? ≠ some '0' := by
  rw [digitText, getLast?_digitsOfNatural]
  exact fun zero =>
    digitChar_ne_zero last (Nat.mod_lt _ (by decide)) (Option.some.inj zero)

/-- Of two decimals of one value, the one with the smaller exponent has the digits of the
other with zeros behind them. -/
theorem digits_eq_mul_pow {left right : Decimal} (equal : left.value = right.value)
    (le : left.exponent ≤ right.exponent) :
    left.digits = right.digits * 10 ^ (right.exponent - left.exponent).toNat := by
  have scale : (10 : ℚ) ^ left.exponent ≠ 0 := zpow_ne_zero _ (by norm_num)
  have split : right.exponent = ((right.exponent - left.exponent).toNat : Int) + left.exponent := by
    omega
  rw [value, value, split, zpow_add₀ (by norm_num), zpow_natCast, ← mul_assoc] at equal
  exact_mod_cast mul_right_cancel₀ scale equal

theorem digits_stripped_le {decimal other : Decimal} (equal : decimal.value = other.value) :
    decimal.stripped.digits ≤ other.digits := by
  rw [← value_stripped decimal] at equal
  rcases Int.le_total other.exponent decimal.stripped.exponent with le | ge
  · rw [digits_eq_mul_pow equal.symm le]
    exact Nat.le_mul_of_pos_right _ (Nat.pow_pos (by decide))
  · -- With a larger exponent there would be a zero left at the end of the digits.
    have digits := digits_eq_mul_pow equal ge
    rcases stripped_cases decimal with none | last
    · rw [none]
      exact Nat.zero_le _
    · have single : (other.exponent - decimal.stripped.exponent).toNat = 0 := by
        by_contra more
        rw [digits, ← Nat.succ_pred_eq_of_ne_zero more, Nat.pow_succ, ← Nat.mul_assoc] at last
        exact last (Nat.mul_mod_left _ 10)
      rw [digits, single, Nat.pow_zero, Nat.mul_one]

end DeskCalculator.Number.Decimal
