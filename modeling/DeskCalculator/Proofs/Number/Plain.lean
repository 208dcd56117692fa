import DeskCalculator.Proofs.Number.Display
import DeskCalculator.Proofs.Number.Order

/-! Zeros and numbers of moderate size are displayed as a literal behind a minus sign or
nothing, and the literal stands for the absolute value. Any other display has a letter. -/

namespace DeskCalculator.Number

open Text

/-! ## Which numbers are plain -/

/-- Zeros, and sizes from a thousandth up to ten million, ten million not included. -/
def IsPlain (value : Float) : Prop :=
  value == 0.0 ∨ 1e-3 ≤ value.abs ∧ value.abs < 1e7

theorem beq_zero_iff (value : Float) : (value == 0.0) = true ↔ codeOf value = 0 := by
  constructor
  · intro zero
    rcases Float.beq_iff_ne_nan_and_eq.mp zero with ⟨-, -, same | ⟨other, -⟩ | ⟨other, -⟩⟩
    · rw [same]
      decide +kernel
    · rw [other]
      decide +kernel
    · rw [other]
      decide +kernel
  · intro zero
    rw [← ofCode_codeOf value, zero]
    cases isNegative value <;> decide +kernel

theorem isPositional_iff (code : Nat) :
    isPositional code = true ↔
      code = 0 ∨ nearestCode 1 1000 ≤ code ∧ code < nearestCode 10000000 1 := by
  rw [isPositional, Bool.or_eq_true, beq_iff_eq, Bool.and_eq_true, decide_eq_true_iff,
    decide_eq_true_iff]

theorem lt_infinityCode_of_isPositional {code : Nat} (positional : isPositional code = true) :
    code < infinityCode := by
  have bound : nearestCode 10000000 1 ≤ infinityCode := by decide +kernel
  have topmost : 0 < infinityCode := by decide
  rw [isPositional_iff] at positional
  omega

theorem isPlain_iff_isPositional (value : Float) :
    IsPlain value ↔ isPositional (codeOf value) = true := by
  have least : (1e-3 : Float) = ofCode false (nearestCode 1 1000) := by decide +kernel
  have bound : (1e7 : Float) = ofCode false (nearestCode 10000000 1) := by decide +kernel
  have leastNumber : nearestCode 1 1000 ≤ infinityCode := by decide +kernel
  have boundNumber : nearestCode 10000000 1 ≤ infinityCode := by decide +kernel
  rcases Nat.lt_or_ge infinityCode (codeOf value) with beyond | number
  · -- A not-a-number is not comparable to anything.
    have incomparable : ¬1e-3 ≤ notANumber.abs := by decide +kernel
    constructor
    · rintro (zero | ⟨above, -⟩)
      · exact (isPositional_iff _).mpr (.inl ((beq_zero_iff value).mp zero))
      · rw [eq_notANumber beyond] at above
        exact absurd above incomparable
    · intro positional
      exact absurd beyond (Nat.lt_asymm (lt_infinityCode_of_isPositional positional))
  · rw [IsPlain, beq_zero_iff, isPositional_iff, abs_eq_ofCode number, least, bound,
      ofCode_le_ofCode leastNumber number, ofCode_lt_ofCode number boundNumber]

theorem codeOf_lt_of_isPlain {value : Float} (plain : IsPlain value) :
    codeOf value < infinityCode :=
  lt_infinityCode_of_isPositional ((isPlain_iff_isPositional value).mp plain)

theorem abs_of_isPlain {value : Float} (plain : IsPlain value) :
    (if isNegative value then -value.abs else value.abs) = value := by
  have number := Nat.le_of_lt (codeOf_lt_of_isPlain plain)
  have whole := ofCode_codeOf value
  rw [abs_eq_ofCode number]
  cases negative : isNegative value with
  | false => rwa [negative] at whole
  | true =>
      rw [if_pos rfl, neg_ofCode false number]
      rwa [negative] at whole

/-! ## What is displayed for them -/

theorem isNumeral_positionalText (decimal : Decimal) : IsNumeral (positionalText decimal) :=
  .pointed (throughout_wholeText decimal) (wholeText_ne_nil decimal)
    (throughout_shownFraction (throughout_fractionText decimal))

theorem ofLiteral_positionalText (decimal : Decimal) :
    ofLiteral (positionalText decimal) = ofCode false decimal.code := by
  have value : (Decimal.ofLiteral (positionalText decimal)).value = decimal.value := by
    rw [positionalText, pointed_eq, value_ofLiteral_pointed _ (throughout_wholeText decimal),
      pointedValue_shownFraction, pointedValue_positional]
  rw [ofLiteral, Decimal.code_eq_of_value_eq value]

/-- A plain number is displayed as the literal of its size, with a minus sign if it is
negative. -/
theorem exists_displayText_of_isPlain {value : Float} (plain : IsPlain value) :
    ∃ literal, IsNumeral literal ∧ ofLiteral literal = value.abs ∧
      displayText value = signText value ++ literal := by
  have finite := codeOf_lt_of_isPlain plain
  refine ⟨positionalText (shortestDecimal (codeOf value)), isNumeral_positionalText _, ?_, ?_⟩
  · rw [ofLiteral_positionalText, code_shortestDecimal finite,
      abs_eq_ofCode (Nat.le_of_lt finite)]
  · rw [displayText_of_lt finite, if_pos ((isPlain_iff_isPositional value).mp plain)]

/-! ## What is displayed for all others -/

/-- The display has a character that is neither a key nor blank. -/
theorem exists_letter_of_not_isPlain {value : Float} (other : ¬IsPlain value) :
    ∃ letter ∈ displayText value, letter ∈ "EIN".toList := by
  rw [isPlain_iff_isPositional] at other
  rcases Nat.lt_trichotomy (codeOf value) infinityCode with finite | infinite | beyond
  · refine ⟨'E', ?_, by decide⟩
    rw [displayText_of_lt finite, if_neg other, scientificText]
    simp
  · refine ⟨'I', ?_, by decide⟩
    rw [displayText_of_eq infinite]
    exact List.mem_append_right _ (by decide)
  · refine ⟨'N', ?_, by decide⟩
    rw [displayText_of_gt beyond]
    decide

end DeskCalculator.Number
