import DeskCalculator.Number.Decimal
import DeskCalculator.Proofs.Number.Rounding
import Mathlib.Algebra.Order.Field.Power
import Mathlib.Algebra.Order.Field.Rat
import Mathlib.Tactic.Ring

/-! A decimal stands for a rational number. The double it is rounded to depends on
that number alone: the exponents that are decided ahead of the division give what
the division would have given. -/

namespace DeskCalculator.Number.Decimal

/-- The exact value. -/
def value (decimal : Decimal) : ℚ :=
  decimal.digits * 10 ^ decimal.exponent

theorem value_ofNat (digits power : Nat) :
    value ⟨digits, .ofNat power⟩ = (digits * 10 ^ power : ℕ) := by
  simp [value]

theorem value_negSucc (digits predecessor : Nat) :
    value ⟨digits, .negSucc predecessor⟩ = digits / (10 ^ (predecessor + 1) : ℕ) := by
  simp [value, zpow_negSucc, div_eq_mul_inv]

theorem value_add_exponent (digits : Nat) (exponent power : Int) :
    value ⟨digits, exponent + power⟩ = value ⟨digits, exponent⟩ * 10 ^ power := by
  simp only [value]
  rw [zpow_add₀ (by norm_num), mul_assoc]

/-! The exponents that are decided ahead. -/

theorem nearestCode_zero {denominator : Nat} (positive : 0 < denominator) :
    nearestCode 0 denominator = 0 := by
  apply nearestCode_eq_zero
  simpa using positive

theorem nearestCode_large {digits power : Nat} (some : digits ≠ 0) (large : 310 ≤ power) :
    nearestCode (digits * Nat.pow 10 power) 1 = infinityCode := by
  have far : ∃ exponent least, 1025 ≤ exponent ∧ least ≤ 310 ∧
      Nat.pow 2 exponent ≤ Nat.pow 10 least := ⟨1029, 310, by decide +kernel⟩
  rcases far with ⟨exponent, least, far, lower, reaches⟩
  apply nearestCode_eq_infinityCode Nat.one_pos far
  rw [Nat.one_mul]
  calc
    Nat.pow 2 exponent ≤ Nat.pow 10 least := reaches
    _ ≤ Nat.pow 10 power := Nat.pow_le_pow_right (by decide) (Nat.le_trans lower large)
    _ ≤ digits * Nat.pow 10 power := Nat.le_mul_of_pos_left _ (Nat.pos_of_ne_zero some)

theorem nearestCode_small {digits power : Nat}
    (small : digits.log2 + 1076 < 3 * power) :
    nearestCode digits (Nat.pow 10 power) = 0 := by
  rcases exists_unitsOfOne_eq with ⟨exponent, exponent_eq, units_eq : unitsOfOne = 2 ^ exponent⟩
  apply nearestCode_eq_zero
  calc
    2 * (digits * unitsOfOne) < 2 * (2 ^ (digits.log2 + 1) * unitsOfOne) :=
      Nat.mul_lt_mul_of_pos_left
        (Nat.mul_lt_mul_of_pos_right Nat.lt_log2_self unitsOfOne_pos) Nat.two_pos
    _ = 2 ^ (digits.log2 + 1 + exponent + 1) := by
      rw [Nat.pow_succ 2 (_ + exponent), Nat.pow_add 2 _ exponent, Nat.mul_comm 2, units_eq]
    _ ≤ 2 ^ (3 * power) := Nat.pow_le_pow_right Nat.two_pos (by omega)
    _ = (2 ^ 3) ^ power := Nat.pow_mul 2 3 power
    _ ≤ 10 ^ power := Nat.pow_le_pow_left (by decide) power

theorem code_ofNat (digits power : Nat) :
    code ⟨digits, .ofNat power⟩ = nearestCode (digits * 10 ^ power) 1 := by
  simp only [code]
  split
  · rename_i none
    rw [none, Nat.zero_mul, nearestCode_zero Nat.one_pos]
  · rename_i some
    split
    · rename_i large
      exact (nearestCode_large some large).symm
    · rfl

theorem code_negSucc (digits predecessor : Nat) :
    code ⟨digits, .negSucc predecessor⟩ = nearestCode digits (10 ^ (predecessor + 1)) := by
  simp only [code]
  split
  · rename_i small
    exact (nearestCode_small small).symm
  · rfl

/-- A decimal has the code that its exact value is rounded to. -/
theorem code_eq_of_value_eq_div {decimal : Decimal} {numerator denominator : Nat}
    (positive : 0 < denominator) (equal : decimal.value = numerator / denominator) :
    decimal.code = nearestCode numerator denominator := by
  rcases decimal with ⟨digits, power | predecessor⟩
  · rw [value_ofNat] at equal
    rw [code_ofNat]
    apply nearestCode_eq_of_mul_eq Nat.one_pos positive
    rw [eq_div_iff (by exact_mod_cast Nat.ne_of_gt positive)] at equal
    rw [Nat.mul_one]
    exact_mod_cast equal
  · have scale : 0 < 10 ^ (predecessor + 1) := Nat.pow_pos (by decide)
    rw [value_negSucc, div_eq_div_iff (by exact_mod_cast Nat.ne_of_gt scale)
      (by exact_mod_cast Nat.ne_of_gt positive)] at equal
    rw [code_negSucc]
    apply nearestCode_eq_of_mul_eq scale positive
    exact_mod_cast equal

theorem exists_value_eq_div (decimal : Decimal) :
    ∃ numerator denominator : Nat, 0 < denominator ∧
      decimal.value = numerator / denominator := by
  rcases decimal with ⟨digits, power | predecessor⟩
  · exact ⟨digits * 10 ^ power, 1, Nat.one_pos, by rw [value_ofNat, Nat.cast_one, div_one]⟩
  · exact ⟨digits, 10 ^ (predecessor + 1), Nat.pow_pos (by decide),
      value_negSucc digits predecessor⟩

theorem code_le_infinityCode (decimal : Decimal) : decimal.code ≤ infinityCode := by
  rcases exists_value_eq_div decimal with ⟨numerator, denominator, positive, value⟩
  rw [code_eq_of_value_eq_div positive value]
  exact Nat.min_le_left _ _

theorem code_eq_of_value_eq {left right : Decimal} (equal : left.value = right.value) :
    left.code = right.code := by
  rcases exists_value_eq_div right with ⟨numerator, denominator, positive, value⟩
  rw [code_eq_of_value_eq_div positive value,
    code_eq_of_value_eq_div positive (equal.trans value)]

/-! ## Zeros at the end -/

/-- Zeros are taken off one by one, up to a last digit that is none. -/
@[elab_as_elim]
theorem stripped_induction {motive : Decimal → Prop}
    (zero : ∀ decimal, decimal.digits = 0 → decimal.stripped = ⟨0, 0⟩ → motive decimal)
    (further : ∀ digits exponent, digits ≠ 0 →
      stripped ⟨10 * digits, exponent⟩ = stripped ⟨digits, exponent + 1⟩ →
      motive ⟨digits, exponent + 1⟩ → motive ⟨10 * digits, exponent⟩)
    (last : ∀ decimal, decimal.digits % 10 ≠ 0 → decimal.stripped = decimal → motive decimal)
    (decimal : Decimal) : motive decimal := by
  rcases decimal with ⟨digits, exponent⟩
  induction digits using Nat.strong_induction_on generalizing exponent with
  | _ digits induction =>
      by_cases none : digits = 0
      · exact zero _ none (by rw [stripped, if_pos none])
      · by_cases ends : digits % 10 = 0
        · rcases Nat.dvd_of_mod_eq_zero ends with ⟨shorter, rfl⟩
          have less : shorter < 10 * shorter := by omega
          refine further shorter exponent (by omega) ?_ (induction shorter less _)
          rw [stripped, if_neg none, if_pos ends, Nat.mul_div_cancel_left shorter (by decide)]
        · exact last _ ends (by rw [stripped, if_neg none, if_neg ends])

theorem value_stripped (decimal : Decimal) : decimal.stripped.value = decimal.value := by
  induction decimal using stripped_induction with
  | zero decimal none stripped => simp [stripped, value, none]
  | further digits exponent some stripped induction =>
      rw [stripped, induction, value_add_exponent, zpow_one, value, value, Nat.cast_mul]
      push_cast
      ring
  | last decimal ends stripped => rw [stripped]

end DeskCalculator.Number.Decimal
