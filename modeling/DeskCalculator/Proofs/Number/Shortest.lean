import DeskCalculator.Number.Shortest
import DeskCalculator.Proofs.Number.Value

/-! Every grid of the search offers only decimals that read back, and the finest grid
holds the exact value, so the search cannot end with another double. -/

namespace DeskCalculator.Number

open Decimal

variable {code : Nat}

theorem code_of_neighbourOnGrid? {grid : Nat} {decimal : Decimal}
    (found : neighbourOnGrid? code grid = some decimal) : decimal.code = code := by
  have tried := List.find?_some found
  simpa using tried

/-- The exact value of a number of halvings, as a decimal. -/
theorem value_halved (count : Nat) {power units : Nat} (units_eq : units = 2 ^ power) :
    value ⟨count * Nat.pow 5 power, -(power : Int)⟩ = count / units := by
  have scale : (10 : ℚ) ^ power = 2 ^ power * 5 ^ power := by
    rw [← mul_pow]
    norm_num
  have five : (5 : ℚ) ^ power ≠ 0 := pow_ne_zero power (by norm_num)
  simp only [value, units_eq, Nat.pow_eq, Nat.cast_mul, Nat.cast_pow, Nat.cast_ofNat, zpow_neg,
    zpow_natCast, scale]
  rw [← div_eq_mul_inv, mul_div_mul_right _ _ five]

theorem code_onGrid_zero (finite : code < infinityCode) :
    (onGrid 0 (exactDigits code)).code = code := by
  rcases exists_unitsOfOne_eq with ⟨exponent, exponent_eq, units_eq : unitsOfOne = 2 ^ exponent⟩
  have exact := value_halved (unitsOfCode code) units_eq
  have finest : onGrid 0 (exactDigits code) =
      ⟨unitsOfCode code * Nat.pow 5 exponent, -(exponent : Int)⟩ := by
    have steps : ((0 : ℕ) : Int) - 1074 = -(exponent : Int) := by omega
    rw [onGrid, exactDigits, steps, ← exponent_eq]
  rw [finest, code_eq_of_value_eq_div unitsOfOne_pos exact, nearestCode_unitsOfCode finite]

theorem code_coarsestFrom (finite : code < infinityCode) (grid : Nat) :
    (coarsestFrom code grid).code = code := by
  induction grid with
  | zero => exact code_onGrid_zero finite
  | succ grid induction =>
      rw [coarsestFrom]
      cases found : neighbourOnGrid? code (grid + 1) with
      | some decimal => exact code_of_neighbourOnGrid? found
      | none => exact induction

/-- The shortest decimal of a finite magnitude is rounded to that magnitude. -/
theorem code_shortestDecimal (finite : code < infinityCode) :
    (shortestDecimal code).code = code := by
  rw [shortestDecimal, code_eq_of_value_eq (value_stripped _)]
  exact code_coarsestFrom finite _

end DeskCalculator.Number
