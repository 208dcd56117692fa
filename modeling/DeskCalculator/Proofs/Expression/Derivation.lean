import DeskCalculator.Proofs.Expression.Reading

/-! The grammar of expressions, with a derivation for every way of applying it:

    expression = term | expression ("+" | "-") term
    term       = factor | term ("*" | "/") factor
    factor     = ("+" | "-") factor | primary | primary "^" factor
    primary    = "(" expression ")" | numeral

A derivation has tokens, a value and a nesting depth of its own, none of which refer
to how expressions are read. -/

namespace DeskCalculator.Expression

inductive Category where
  | expression
  | term
  | factor
  | primary
deriving DecidableEq, Repr

inductive Derivation : Category → Type where
  | ofTerm (term : Derivation .term) : Derivation .expression
  | sum (left : Derivation .expression) (operator : SumOperator)
      (right : Derivation .term) : Derivation .expression
  | ofFactor (factor : Derivation .factor) : Derivation .term
  | product (left : Derivation .term) (operator : ProductOperator)
      (right : Derivation .factor) : Derivation .term
  | signed (sign : Sign) (operand : Derivation .factor) : Derivation .factor
  | ofPrimary (primary : Derivation .primary) : Derivation .factor
  | power (base : Derivation .primary) (exponent : Derivation .factor) :
      Derivation .factor
  | group (inner : Derivation .expression) : Derivation .primary
  | numeral (text : List Char) (wellFormed : Number.IsNumeral text) :
      Derivation .primary

namespace Derivation

def tokens {category : Category} : Derivation category → List Token
  | ofTerm term => term.tokens
  | sum left operator right => left.tokens ++ .symbol operator.symbol :: right.tokens
  | ofFactor factor => factor.tokens
  | product left operator right => left.tokens ++ .symbol operator.symbol :: right.tokens
  | signed sign operand => .symbol sign.symbol :: operand.tokens
  | ofPrimary primary => primary.tokens
  | power base exponent => base.tokens ++ .symbol '^' :: exponent.tokens
  | group inner => .symbol '(' :: (inner.tokens ++ [.symbol ')'])
  | numeral text _ => [.literal text]

def value {category : Category} : Derivation category → Float
  | ofTerm term => term.value
  | sum left .plus right => left.value + right.value
  | sum left .minus right => left.value - right.value
  | ofFactor factor => factor.value
  | product left .times right => left.value * right.value
  | product left .dividedBy right => left.value / right.value
  | signed .plus operand => operand.value
  | signed .minus operand => -operand.value
  | ofPrimary primary => primary.value
  | power base exponent => base.value.pow exponent.value
  | group inner => inner.value
  | numeral text _ => Number.ofLiteral text

/-- The largest number of signs, exponents and parentheses around one place. -/
def nesting {category : Category} : Derivation category → Nat
  | ofTerm term => term.nesting
  | sum left _ right => max left.nesting right.nesting
  | ofFactor factor => factor.nesting
  | product left _ right => max left.nesting right.nesting
  | signed _ operand => operand.nesting + 1
  | ofPrimary primary => primary.nesting
  | power base exponent => max base.nesting (exponent.nesting + 1)
  | group inner => inner.nesting + 1
  | numeral _ _ => 0

theorem value_sum (left : Derivation .expression) (operator : SumOperator)
    (right : Derivation .term) :
    (sum left operator right).value = operator.apply left.value right.value := by
  cases operator <;> rfl

theorem value_product (left : Derivation .term) (operator : ProductOperator)
    (right : Derivation .factor) :
    (product left operator right).value = operator.apply left.value right.value := by
  cases operator <;> rfl

theorem value_signed (sign : Sign) (operand : Derivation .factor) :
    (signed sign operand).value = sign.opening.apply operand.value := by
  cases sign <;> rfl

end Derivation

end DeskCalculator.Expression
