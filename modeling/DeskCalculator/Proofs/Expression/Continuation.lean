import DeskCalculator.Proofs.Expression.Acceptance
import DeskCalculator.Proofs.Number.Plain

/-! The display of a plain number is a literal with a minus sign or nothing in front. It stands
for the number, and so it does in front of an operator and another literal, but for a
power: the sign is taken of the whole power. -/

namespace DeskCalculator.Expression

open Text Number

theorem spells_text (tokens : List Token) : Spells tokens (tokens.flatMap Token.text) := by
  induction tokens with
  | nil => exact .blanks throughout_nil
  | cons token tokens induction => exact .token throughout_nil induction

/-! ## Derivations without blanks -/

namespace Derivation

def text {category : Category} (derivation : Derivation category) : List Char :=
  derivation.tokens.flatMap Token.text

theorem evaluate_text {limit : Nat} (derivation : Derivation .expression)
    (fits : derivation.nesting ≤ limit) :
    evaluate limit derivation.text = .ok derivation.value :=
  evaluate_of_derivation derivation (spells_text derivation.tokens) fits

theorem text_sum (left : Derivation .expression) (operator : SumOperator)
    (right : Derivation .term) :
    (sum left operator right).text = left.text ++ operator.symbol :: right.text := by
  rw [text, tokens, List.flatMap_append, List.flatMap_cons]
  rfl

theorem text_product (left : Derivation .term) (operator : ProductOperator)
    (right : Derivation .factor) :
    (product left operator right).text = left.text ++ operator.symbol :: right.text := by
  rw [text, tokens, List.flatMap_append, List.flatMap_cons]
  rfl

theorem text_power (base : Derivation .primary) (exponent : Derivation .factor) :
    (power base exponent).text = base.text ++ '^' :: exponent.text := by
  rw [text, tokens, List.flatMap_append, List.flatMap_cons]
  rfl

theorem text_numeral {literal : List Char} (wellFormed : IsNumeral literal) :
    (numeral literal wellFormed).text = literal :=
  List.append_nil literal

/-- A factor with a minus sign in front, or as it is. -/
def signedIf (negative : Bool) (operand : Derivation .factor) : Derivation .factor :=
  if negative then .signed .minus operand else operand

section

variable (negative : Bool) (operand : Derivation .factor)

theorem text_signedIf :
    (signedIf negative operand).text = (if negative then ['-'] else []) ++ operand.text := by
  cases negative <;> rfl

theorem value_signedIf :
    (signedIf negative operand).value = if negative then -operand.value else operand.value := by
  cases negative <;> rfl

theorem nesting_signedIf_le : (signedIf negative operand).nesting ≤ operand.nesting + 1 := by
  cases negative with
  | false => exact Nat.le_succ _
  | true => exact Nat.le_refl _

end

end Derivation

open DeskCalculator.Expression.Derivation

/-! ## A factor and a literal -/

section

variable {limit : Nat} {factor : Derivation .factor} {literal : List Char}
  (fits : factor.nesting ≤ limit) (wellFormed : IsNumeral literal)

include fits wellFormed

theorem evaluate_factor_sum (operator : SumOperator) :
    evaluate limit (factor.text ++ operator.symbol :: literal) =
      .ok (operator.apply factor.value (ofLiteral literal)) := by
  let right := Derivation.numeral literal wellFormed
  let whole := Derivation.sum (.ofTerm (.ofFactor factor)) operator (.ofFactor (.ofPrimary right))
  have text : whole.text = factor.text ++ operator.symbol :: literal := by
    rw [text_sum]
    exact congrArg (factor.text ++ operator.symbol :: ·) (text_numeral wellFormed)
  have value : whole.value = operator.apply factor.value (ofLiteral literal) :=
    value_sum _ _ _
  rw [← text, ← value]
  exact evaluate_text whole (Nat.max_le.mpr ⟨fits, Nat.zero_le limit⟩)

theorem evaluate_factor_product (operator : ProductOperator) :
    evaluate limit (factor.text ++ operator.symbol :: literal) =
      .ok (operator.apply factor.value (ofLiteral literal)) := by
  let right := Derivation.numeral literal wellFormed
  let whole := Derivation.product (.ofFactor factor) operator (.ofPrimary right)
  have text : whole.text = factor.text ++ operator.symbol :: literal := by
    rw [text_product]
    exact congrArg (factor.text ++ operator.symbol :: ·) (text_numeral wellFormed)
  have value : whole.value = operator.apply factor.value (ofLiteral literal) :=
    value_product _ _ _
  rw [← text, ← value]
  exact evaluate_text (.ofTerm whole) (Nat.max_le.mpr ⟨fits, Nat.zero_le limit⟩)

end

/-! ## Displays of plain numbers -/

section

variable {limit : Nat} {value : Float} {literal : List Char} (plain : IsPlain value)
  (wellFormed : IsNumeral literal)

include plain

theorem exists_factor_of_isPlain :
    ∃ factor : Derivation .factor, factor.text = displayText value ∧ factor.value = value ∧
      factor.nesting ≤ 1 := by
  rcases exists_displayText_of_isPlain plain with ⟨size, sizeWellFormed, sized, shows⟩
  let operand : Derivation .factor := .ofPrimary (.numeral size sizeWellFormed)
  have text : operand.text = size := text_numeral sizeWellFormed
  have magnitude : operand.value = value.abs := sized
  refine ⟨signedIf (isNegative value) operand, ?_, ?_, nesting_signedIf_le _ operand⟩
  · rw [text_signedIf, text, shows, signText]
  · rw [value_signedIf, magnitude, abs_of_isPlain plain]

theorem evaluate_displayText (room : 1 ≤ limit) :
    evaluate limit (displayText value) = .ok value := by
  rcases exists_factor_of_isPlain plain with ⟨factor, text, same, single⟩
  have evaluated := evaluate_text (.ofTerm (.ofFactor factor)) (Nat.le_trans single room)
  have whole : evaluate limit factor.text = .ok factor.value := evaluated
  rwa [text, same] at whole

include wellFormed

theorem evaluate_displayText_sum (operator : SumOperator) (room : 1 ≤ limit) :
    evaluate limit (displayText value ++ operator.symbol :: literal) =
      .ok (operator.apply value (ofLiteral literal)) := by
  rcases exists_factor_of_isPlain plain with ⟨factor, text, same, single⟩
  have evaluated := evaluate_factor_sum (Nat.le_trans single room) wellFormed operator
  rwa [text, same] at evaluated

theorem evaluate_displayText_product (operator : ProductOperator) (room : 1 ≤ limit) :
    evaluate limit (displayText value ++ operator.symbol :: literal) =
      .ok (operator.apply value (ofLiteral literal)) := by
  rcases exists_factor_of_isPlain plain with ⟨factor, text, same, single⟩
  have evaluated := evaluate_factor_product (Nat.le_trans single room) wellFormed operator
  rwa [text, same] at evaluated

/-- The power is raised before the sign is taken, inside of the level that the sign opens. -/
theorem evaluate_displayText_power (room : 2 ≤ limit) :
    evaluate limit (displayText value ++ '^' :: literal) =
      .ok (if isNegative value then -value.abs.pow (ofLiteral literal)
        else value.pow (ofLiteral literal)) := by
  rcases exists_displayText_of_isPlain plain with ⟨size, sizeWellFormed, sized, shows⟩
  let exponent := Derivation.numeral literal wellFormed
  let raised := Derivation.power (.numeral size sizeWellFormed) (.ofPrimary exponent)
  let whole := signedIf (isNegative value) raised
  have text : whole.text = displayText value ++ '^' :: literal := by
    have spelled : raised.text = size ++ '^' :: literal := by
      rw [text_power, text_numeral]
      exact congrArg (size ++ '^' :: ·) (text_numeral wellFormed)
    rw [text_signedIf, spelled, shows, signText, List.append_assoc]
  have power : raised.value = value.abs.pow (ofLiteral literal) :=
    congrArg (Float.pow · (ofLiteral literal)) sized
  have result : whole.value = if isNegative value then -value.abs.pow (ofLiteral literal)
      else value.pow (ofLiteral literal) := by
    rw [value_signedIf, power]
    cases negative : isNegative value with
    | true => rfl
    | false =>
        have positive := abs_of_isPlain plain
        rw [negative, if_neg Bool.false_ne_true] at positive
        rw [if_neg Bool.false_ne_true, if_neg Bool.false_ne_true, positive]
  have fits : whole.nesting ≤ limit := Nat.le_trans (nesting_signedIf_le _ _) room
  rw [← text, ← result]
  exact evaluate_text (.ofTerm (.ofFactor whole)) fits

end

end DeskCalculator.Expression
