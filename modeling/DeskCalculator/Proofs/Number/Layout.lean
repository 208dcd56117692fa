import DeskCalculator.Number.Display
import DeskCalculator.Proofs.Number.Text

/-! With or without a power of ten behind its digits, the text of a decimal has digits
on both sides of its point and writes the value of the decimal. -/

namespace DeskCalculator.Number

open Text

/-! The zero behind a point without digits adds nothing to the value. -/

/-- The digits that stand behind the point. -/
def shownFraction (fraction : List Char) : List Char :=
  if fraction.isEmpty then ['0'] else fraction

theorem pointed_eq (whole fraction : List Char) :
    pointed whole fraction = whole ++ '.' :: shownFraction fraction :=
  rfl

theorem throughout_shownFraction {fraction : List Char}
    (digits : Throughout isDigit fraction) : Throughout isDigit (shownFraction fraction) := by
  unfold shownFraction
  split
  · decide
  · exact digits

theorem pointedValue_shownFraction (whole fraction : List Char) :
    pointedValue whole (shownFraction fraction) = pointedValue whole fraction := by
  cases fraction with
  | cons first rest => rfl
  | nil =>
      have number : naturalOfDigits (whole ++ ['0']) = naturalOfDigits whole * 10 ^ 1 :=
        naturalOfDigits_append_zeros whole 1
      have shown : pointedValue whole ['0'] = Decimal.value ⟨naturalOfDigits whole, 0⟩ :=
        pointedValue_eq_value number rfl
      have same : naturalOfDigits (whole ++ []) = naturalOfDigits whole * 10 ^ 0 :=
        naturalOfDigits_append_zeros whole 0
      have bare : pointedValue whole [] = Decimal.value ⟨naturalOfDigits whole, 0⟩ :=
        pointedValue_eq_value same rfl
      exact shown.trans bare.symm

/-! A decimal has its point among its digits or behind them, or zeros stand between
the point and the digits. -/

section

variable {decimal : Decimal}

theorem wholeText_of_point_pos {place : Nat} (position : decimal.point = place)
    (positive : 0 < place) :
    decimal.wholeText = decimal.digitText.take place ++
      List.replicate (place - decimal.digitText.length) '0' := by
  rcases Nat.exists_eq_succ_of_ne_zero (Nat.ne_of_gt positive) with ⟨predecessor, rfl⟩
  rw [Decimal.wholeText, position]
  rfl

theorem fractionText_of_point_nonneg {place : Nat} (position : decimal.point = place) :
    decimal.fractionText = decimal.digitText.drop place := by
  rw [Decimal.fractionText, position]

theorem wholeText_of_point_nonpos {gap : Nat} (position : decimal.point = -gap) :
    decimal.wholeText = ['0'] := by
  rw [Decimal.wholeText, position]
  cases gap <;> rfl

theorem fractionText_of_point_nonpos {gap : Nat} (position : decimal.point = -gap) :
    decimal.fractionText = List.replicate gap '0' ++ decimal.digitText := by
  rw [Decimal.fractionText, position]
  cases gap <;> rfl

end

theorem point_cases (decimal : Decimal) :
    (∃ place : Nat, decimal.point = place ∧ 0 < place) ∨
      ∃ gap : Nat, decimal.point = -gap := by
  by_cases positive : 0 < decimal.point
  · exact .inl ⟨decimal.point.toNat, by omega, by omega⟩
  · exact .inr ⟨(-decimal.point).toNat, by omega⟩

section

variable (decimal : Decimal)

theorem throughout_digitText : Throughout isDigit decimal.digitText :=
  throughout_digitsOfNatural decimal.digits

theorem digitText_ne_nil : decimal.digitText ≠ [] :=
  digitsOfNatural_ne_nil decimal.digits

theorem naturalOfDigits_digitText : naturalOfDigits decimal.digitText = decimal.digits :=
  naturalOfDigits_digitsOfNatural decimal.digits

theorem length_digitText_pos : 0 < decimal.digitText.length :=
  List.length_pos_iff.2 (digitText_ne_nil decimal)

theorem throughout_take (count : Nat) : Throughout isDigit (decimal.digitText.take count) :=
  fun character member => throughout_digitText decimal character (List.mem_of_mem_take member)

theorem throughout_drop (count : Nat) : Throughout isDigit (decimal.digitText.drop count) :=
  fun character member => throughout_digitText decimal character (List.mem_of_mem_drop member)

/-! Positional texts. -/

theorem throughout_wholeText : Throughout isDigit decimal.wholeText := by
  rcases point_cases decimal with ⟨place, position, positive⟩ | ⟨gap, position⟩
  · rw [wholeText_of_point_pos position positive, throughout_append]
    exact ⟨throughout_take decimal place, throughout_replicate_zero _⟩
  · rw [wholeText_of_point_nonpos position]
    decide

theorem throughout_fractionText : Throughout isDigit decimal.fractionText := by
  rcases point_cases decimal with ⟨place, position, _⟩ | ⟨gap, position⟩
  · rw [fractionText_of_point_nonneg position]
    exact throughout_drop decimal place
  · rw [fractionText_of_point_nonpos position, throughout_append]
    exact ⟨throughout_replicate_zero gap, throughout_digitText decimal⟩

theorem wholeText_ne_nil : decimal.wholeText ≠ [] := by
  rcases point_cases decimal with ⟨place, position, positive⟩ | ⟨gap, position⟩
  · rw [wholeText_of_point_pos position positive]
    simp [digitText_ne_nil, Nat.ne_of_gt positive]
  · rw [wholeText_of_point_nonpos position]
    simp

theorem pointedValue_positional :
    pointedValue decimal.wholeText decimal.fractionText = decimal.value := by
  have definition : decimal.point = decimal.digitText.length + decimal.exponent := rfl
  rcases point_cases decimal with ⟨place, position, positive⟩ | ⟨gap, position⟩
  · rw [wholeText_of_point_pos position positive, fractionText_of_point_nonneg position]
    have number := naturalOfDigits_padded decimal.digitText place
    rw [naturalOfDigits_digitText] at number
    apply pointedValue_eq_value number
    rw [List.length_drop]
    omega
  · rw [wholeText_of_point_nonpos position, fractionText_of_point_nonpos position]
    have number : naturalOfDigits (['0'] ++ (List.replicate gap '0' ++ decimal.digitText)) =
        decimal.digits * 10 ^ 0 := by
      rw [← naturalOfDigits_digitText, Nat.pow_zero, Nat.mul_one,
        ← naturalOfDigits_zeros_append gap decimal.digitText]
      exact naturalOfDigits_zeros_append 1 _
    apply pointedValue_eq_value number
    rw [List.length_append, List.length_replicate]
    push_cast
    omega

theorem writes_positionalText : Writes (positionalText decimal) decimal := by
  have value : pointedValue decimal.wholeText (shownFraction decimal.fractionText) *
      10 ^ (0 : Int) = decimal.value := by
    rw [zpow_zero, mul_one, pointedValue_shownFraction, pointedValue_positional]
  have writes := writes_pointed (throughout_wholeText decimal) (wholeText_ne_nil decimal)
    (throughout_shownFraction (throughout_fractionText decimal)) notAhead_nil rfl value
  rwa [List.append_nil] at writes

/-! Scientific texts. -/

theorem pointedValue_scientific :
    pointedValue (decimal.digitText.take 1) (decimal.digitText.drop 1) *
      10 ^ (decimal.point - 1) = decimal.value := by
  have definition : decimal.point = decimal.digitText.length + decimal.exponent := rfl
  have some := length_digitText_pos decimal
  have number : naturalOfDigits (decimal.digitText.take 1 ++ decimal.digitText.drop 1) =
      decimal.digits * 10 ^ 0 := by
    rw [List.take_append_drop, naturalOfDigits_digitText, Nat.pow_zero, Nat.mul_one]
  have significand : pointedValue (decimal.digitText.take 1) (decimal.digitText.drop 1) =
      Decimal.value ⟨decimal.digits, 1 - decimal.digitText.length⟩ := by
    apply pointedValue_eq_value number
    rw [List.length_drop]
    omega
  have exponent : (1 - decimal.digitText.length : Int) + (decimal.point - 1) =
      decimal.exponent := by
    omega
  rw [significand, ← Decimal.value_add_exponent, exponent]

theorem writes_scientificText : Writes (scientificText decimal) decimal := by
  have first : decimal.digitText.take 1 ≠ [] := by
    simp [digitText_ne_nil]
  have stops : NotAhead isDigit ('E' :: digitsOfInteger (decimal.point - 1)) := by
    rw [notAhead_cons]
    rfl
  have value : pointedValue (decimal.digitText.take 1)
      (shownFraction (decimal.digitText.drop 1)) * 10 ^ (decimal.point - 1) =
        decimal.value := by
    rw [pointedValue_shownFraction, pointedValue_scientific]
  exact writes_pointed (throughout_take decimal 1) first
    (throughout_shownFraction (throughout_drop decimal 1)) stops
    (exponent?_digitsOfInteger (decimal.point - 1)) value

end

end DeskCalculator.Number
