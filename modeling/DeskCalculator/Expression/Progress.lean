import DeskCalculator.Expression.Misreading
import DeskCalculator.Expression.Token

/-! The grammar, with the tightest binding last:

    expression = term, then any number of "+" term or "-" term
    term       = factor, then any number of "*" factor or "/" factor
    factor     = "+" factor | "-" factor | primary | primary "^" factor
    primary    = "(" expression ")" | literal

An expression is evaluated while it is read. What has been read and cannot be
computed yet is kept as open work, and every token either adds to that work or
completes some of it. Open signs, bases of powers and parentheses are the levels
that count as nesting. -/

namespace DeskCalculator.Expression

inductive SumOperator where
  | plus
  | minus
deriving DecidableEq, Repr

inductive ProductOperator where
  | times
  | dividedBy
deriving DecidableEq, Repr

/-- What stands in front of an operand and takes the whole factor after it. -/
inductive Opening where
  | identity
  | negation
  | base (value : Float)
deriving DecidableEq

def SumOperator.apply : SumOperator → Float → Float → Float
  | plus, left, right => left + right
  | minus, left, right => left - right

def ProductOperator.apply : ProductOperator → Float → Float → Float
  | times, left, right => left * right
  | dividedBy, left, right => left / right

def Opening.apply : Opening → Float → Float
  | identity, operand => operand
  | negation, operand => -operand
  | base value, operand => value.pow operand

/-- The open work of one expression: the left side of a sum, the left side of a
product in its right side, and the openings in front of the operand, the innermost
first. -/
structure Level where
  sum : Option (Float × SumOperator)
  product : Option (Float × ProductOperator)
  openings : List Opening
deriving DecidableEq

namespace Level

def empty : Level :=
  ⟨none, none, []⟩

/-! The value of the factor, the term and the expression that end with an
operand. -/

def factor (level : Level) (operand : Float) : Float :=
  level.openings.foldl (fun value opening => opening.apply value) operand

def term (level : Level) (operand : Float) : Float :=
  match level.product with
  | none => level.factor operand
  | some (left, operator) => operator.apply left (level.factor operand)

def expression (level : Level) (operand : Float) : Float :=
  match level.sum with
  | none => level.term operand
  | some (left, operator) => operator.apply left (level.term operand)

end Level

/-- How far the reading of an expression has come: the number of open nesting
levels, the open work of the innermost expression, that of the expressions around
it, each with an open parenthesis, and the operand just read, if one was. -/
structure Progress where
  depth : Nat
  level : Level
  enclosing : List Level
  operand : Option Float
deriving DecidableEq

namespace Progress

def start : Progress :=
  ⟨0, .empty, [], none⟩

def nest (limit : Nat) (level : Level) (enclosing : List Level) (progress : Progress) :
    Except Misreading.Cause Progress :=
  if limit ≤ progress.depth then .error (.nestedTooDeep limit)
  else .ok ⟨progress.depth + 1, level, enclosing, none⟩

def openFactor (limit : Nat) (opening : Opening) (progress : Progress) :
    Except Misreading.Cause Progress :=
  progress.nest limit
    { progress.level with openings := opening :: progress.level.openings }
    progress.enclosing

def openGroup (limit : Nat) (progress : Progress) : Except Misreading.Cause Progress :=
  progress.nest limit .empty (progress.level :: progress.enclosing)

def depthAfterFactor (progress : Progress) : Nat :=
  progress.depth - progress.level.openings.length

/-- A token that continues nothing. Outside of all parentheses a whole expression
has been read before it. -/
def refuse (token : Token) (progress : Progress) : Misreading.Cause :=
  if progress.enclosing.isEmpty then .trailingInput token.firstCharacter
  else .unexpectedCharacter token.firstCharacter

def closeGroup (operand : Float) (progress : Progress) :
    Except Misreading.Cause Progress :=
  match progress.enclosing with
  | [] => .error (progress.refuse (.symbol ')'))
  | level :: enclosing =>
      .ok ⟨progress.depthAfterFactor - 1, level, enclosing,
        some (progress.level.expression operand)⟩

def stepOperand (limit : Nat) (token : Token) (progress : Progress) :
    Except Misreading.Cause Progress :=
  match token with
  | .literal text =>
      if Number.isLiteral text then
        .ok { progress with operand := some (Number.ofLiteral text) }
      else
        .error (.malformedNumber text)
  | .symbol '+' => progress.openFactor limit .identity
  | .symbol '-' => progress.openFactor limit .negation
  | .symbol '(' => progress.openGroup limit
  | .symbol character => .error (.unexpectedCharacter character)

def stepOperator (limit : Nat) (operand : Float) (token : Token) (progress : Progress) :
    Except Misreading.Cause Progress :=
  let sum (operator : SumOperator) : Progress :=
    ⟨progress.depthAfterFactor, ⟨some (progress.level.expression operand, operator), none, []⟩,
      progress.enclosing, none⟩
  let product (operator : ProductOperator) : Progress :=
    ⟨progress.depthAfterFactor,
      ⟨progress.level.sum, some (progress.level.term operand, operator), []⟩,
      progress.enclosing, none⟩
  match token with
  | .symbol '+' => .ok (sum .plus)
  | .symbol '-' => .ok (sum .minus)
  | .symbol '*' => .ok (product .times)
  | .symbol '/' => .ok (product .dividedBy)
  | .symbol '^' => progress.openFactor limit (.base operand)
  | .symbol ')' => progress.closeGroup operand
  | _ => .error (progress.refuse token)

def step (limit : Nat) (token : Token) (progress : Progress) :
    Except Misreading.Cause Progress :=
  match progress.operand with
  | none => progress.stepOperand limit token
  | some operand => progress.stepOperator limit operand token

def finish (progress : Progress) : Except Misreading.Cause Float :=
  match progress.operand, progress.enclosing with
  | some operand, [] => .ok (progress.level.expression operand)
  | _, _ => .error .unexpectedEnd

end Progress

end DeskCalculator.Expression
