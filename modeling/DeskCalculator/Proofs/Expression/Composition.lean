import DeskCalculator.Proofs.Expression.Acceptance

/-! A text in parentheses stands for the value of what is inside, whatever blanks there are,
and it can be an operand of every operator. Only the left operand of a sum needs no
parentheses, since a sum takes everything in front of it. -/

namespace DeskCalculator.Expression

open Text DeskCalculator.Expression.Derivation

theorem Spells.append {tokens more : List Token} {text rest : List Char}
    (spells : Spells tokens text) (further : Spells more rest) :
    Spells (tokens ++ more) (text ++ rest) := by
  induction spells with
  | blanks blank => exact further.append_blanks blank
  | token blank _ induction =>
      rw [List.append_assoc, List.append_assoc]
      exact .token blank induction

/-- Spells a single character in front of what is spelt already. -/
theorem Spells.symbol {tokens : List Token} {text : List Char} (character : Char)
    (spells : Spells tokens text) : Spells (.symbol character :: tokens) (character :: text) :=
  .token throughout_nil spells

/-- A phrase of the category, within the nesting limit, spells the text and has the value. -/
def StandsFor (limit : Nat) (category : Category) (text : List Char) (value : Float) : Prop :=
  ∃ derivation : Derivation category, Spells derivation.tokens text ∧
    derivation.nesting ≤ limit ∧ derivation.value = value

theorem standsFor_iff_evaluate {limit : Nat} {text : List Char} {value : Float} :
    StandsFor limit .expression text value ↔ evaluate limit text = .ok value := by
  constructor
  · rintro ⟨derivation, spells, fits, rfl⟩
    exact evaluate_of_derivation derivation spells fits
  · exact exists_derivation_of_evaluate

def enclosed (text : List Char) : List Char :=
  '(' :: (text ++ [')'])

namespace StandsFor

variable {limit : Nat} {text left right : List Char} {value first second : Float}

/-! One way of building a phrase from phrases after the other. -/

theorem group (inner : StandsFor limit .expression text value) :
    StandsFor (limit + 1) .primary (enclosed text) value := by
  rcases inner with ⟨derivation, spells, fits, same⟩
  have closed : Spells [.symbol ')'] [')'] := .symbol ')' (.blanks throughout_nil)
  exact ⟨.group derivation, .symbol '(' (spells.append closed), Nat.succ_le_succ fits, same⟩

theorem factor (primary : StandsFor limit .primary text value) :
    StandsFor limit .factor text value := by
  rcases primary with ⟨derivation, spells, fits, same⟩
  exact ⟨.ofPrimary derivation, spells, fits, same⟩

theorem term (factor : StandsFor limit .factor text value) :
    StandsFor limit .term text value := by
  rcases factor with ⟨derivation, spells, fits, same⟩
  exact ⟨.ofFactor derivation, spells, fits, same⟩

theorem expression (term : StandsFor limit .term text value) :
    StandsFor limit .expression text value := by
  rcases term with ⟨derivation, spells, fits, same⟩
  exact ⟨.ofTerm derivation, spells, fits, same⟩

theorem raise {category : Category} (stands : StandsFor limit category text value)
    {larger : Nat} (le : limit ≤ larger) : StandsFor larger category text value := by
  rcases stands with ⟨derivation, spells, fits, same⟩
  exact ⟨derivation, spells, Nat.le_trans fits le, same⟩

theorem signed (operand : StandsFor limit .factor text value) (sign : Sign) :
    StandsFor (limit + 1) .factor (sign.symbol :: text) (sign.opening.apply value) := by
  rcases operand with ⟨derivation, spells, fits, rfl⟩
  exact ⟨.signed sign derivation, spells.symbol sign.symbol, Nat.succ_le_succ fits,
    value_signed sign derivation⟩

theorem power (base : StandsFor (limit + 1) .primary left first)
    (exponent : StandsFor limit .factor right second) :
    StandsFor (limit + 1) .factor (left ++ '^' :: right) (first.pow second) := by
  rcases base with ⟨base, spellsBase, fitsBase, rfl⟩
  rcases exponent with ⟨exponent, spellsExponent, fitsExponent, rfl⟩
  exact ⟨.power base exponent, spellsBase.append (spellsExponent.symbol '^'),
    Nat.max_le.mpr ⟨fitsBase, Nat.succ_le_succ fitsExponent⟩, rfl⟩

theorem product (leftStands : StandsFor limit .term left first)
    (rightStands : StandsFor limit .factor right second) (operator : ProductOperator) :
    StandsFor limit .term (left ++ operator.symbol :: right)
      (operator.apply first second) := by
  rcases leftStands with ⟨leftTerm, spellsLeft, fitsLeft, rfl⟩
  rcases rightStands with ⟨rightFactor, spellsRight, fitsRight, rfl⟩
  exact ⟨.product leftTerm operator rightFactor,
    spellsLeft.append (spellsRight.symbol operator.symbol),
    Nat.max_le.mpr ⟨fitsLeft, fitsRight⟩, value_product leftTerm operator rightFactor⟩

theorem sum (leftStands : StandsFor limit .expression left first)
    (rightStands : StandsFor limit .term right second) (operator : SumOperator) :
    StandsFor limit .expression (left ++ operator.symbol :: right)
      (operator.apply first second) := by
  rcases leftStands with ⟨leftExpression, spellsLeft, fitsLeft, rfl⟩
  rcases rightStands with ⟨rightTerm, spellsRight, fitsRight, rfl⟩
  exact ⟨.sum leftExpression operator rightTerm,
    spellsLeft.append (spellsRight.symbol operator.symbol),
    Nat.max_le.mpr ⟨fitsLeft, fitsRight⟩, value_sum leftExpression operator rightTerm⟩

end StandsFor

theorem evaluate_composed {limit : Nat} {left right : List Char} {first second : Float}
    (leftEvaluated : evaluate limit left = .ok first)
    (rightEvaluated : evaluate limit right = .ok second) :
    (∀ operator : SumOperator,
      evaluate (limit + 1) (enclosed left ++ operator.symbol :: enclosed right) =
        .ok (operator.apply first second)) ∧
    (∀ operator : ProductOperator,
      evaluate (limit + 1) (enclosed left ++ operator.symbol :: enclosed right) =
        .ok (operator.apply first second)) ∧
    evaluate (limit + 2) (enclosed left ++ '^' :: enclosed right) = .ok (first.pow second) ∧
    evaluate (limit + 2) ('-' :: enclosed left) = .ok (-first) ∧
    evaluate (limit + 2) ('+' :: enclosed left) = .ok first ∧
    ∀ operator : SumOperator,
      evaluate (limit + 1) (left ++ operator.symbol :: enclosed right) =
        .ok (operator.apply first second) := by
  have leftWhole := standsFor_iff_evaluate.mpr leftEvaluated
  have leftGroup := leftWhole.group
  have rightGroup := (standsFor_iff_evaluate.mpr rightEvaluated).group
  have whole {limit : Nat} {text : List Char} {value : Float}
      (factor : StandsFor limit .factor text value) : evaluate limit text = .ok value :=
    standsFor_iff_evaluate.mp factor.term.expression
  refine ⟨fun operator => ?_, fun operator => ?_, ?_, ?_, ?_, fun operator => ?_⟩
  · have sum := leftGroup.factor.term.expression.sum rightGroup.factor.term operator
    exact standsFor_iff_evaluate.mp sum
  · have product := leftGroup.factor.term.product rightGroup.factor operator
    exact standsFor_iff_evaluate.mp product.expression
  · exact whole ((leftGroup.raise (Nat.le_succ _)).power rightGroup.factor)
  · exact whole (leftGroup.factor.signed .minus)
  · exact whole (leftGroup.factor.signed .plus)
  · have sum := (leftWhole.raise (Nat.le_succ limit)).sum rightGroup.factor.term operator
    exact standsFor_iff_evaluate.mp sum

/-- Both texts are sums, and the limit leaves no room for another level inside of them. -/
theorem evaluate_composed_of_spaced_sums :
    evaluate 1 " 8-(2) ".toList = .ok 6.0 ∧ evaluate 1 "1--1".toList = .ok 2.0 ∧
      evaluate 2 " 8-(2) -(1--1)".toList = .ok 4.0 ∧
      evaluate 3 "( 8-(2) )^(1--1)".toList = .ok ((6.0 : Float).pow 2.0) := by
  have left : evaluate 1 " 8-(2) ".toList = .ok 6.0 := by decide +kernel
  have right : evaluate 1 "1--1".toList = .ok 2.0 := by decide +kernel
  have composed := evaluate_composed left right
  have difference : SumOperator.minus.apply 6.0 2.0 = 4.0 := by decide +kernel
  refine ⟨left, right, ?_, composed.2.2.1⟩
  rw [← difference]
  exact composed.2.2.2.2.2 .minus

end DeskCalculator.Expression
