import DeskCalculator.Number.Magnitude
import DeskCalculator.Text.Digit

/-! A decimal is a whole number of digits and a power of ten. It is rounded to the
nearest double from its exact value, however many digits it has. -/

namespace DeskCalculator.Number

/-- The value `digits * 10 ^ exponent`. -/
structure Decimal where
  digits : Nat
  exponent : Int
deriving DecidableEq, Repr

namespace Decimal

/-- The code of the nearest magnitude. Two kinds of exponents are decided without
computing the power of ten: `10 ^ 310` and more lies beyond every finite double,
and `digits / 10 ^ power` is below half a unit once `digits` has fewer than
`3 * power - 1075` bits, since `2 ^ (3 * power)` is at most `10 ^ power`. -/
def code (decimal : Decimal) : Nat :=
  match decimal.exponent with
  | .ofNat power =>
      if decimal.digits = 0 then 0
      else if 310 ≤ power then infinityCode
      else nearestCode (decimal.digits * Nat.pow 10 power) 1
  | .negSucc predecessor =>
      let power := predecessor + 1
      if decimal.digits.log2 + 1076 < 3 * power then 0
      else nearestCode decimal.digits (Nat.pow 10 power)

def stripped (decimal : Decimal) : Decimal :=
  if decimal.digits = 0 then ⟨0, 0⟩
  else if decimal.digits % 10 = 0 then
    stripped ⟨decimal.digits / 10, decimal.exponent + 1⟩
  else decimal
termination_by decimal.digits
decreasing_by omega

/-! The digits of a decimal around its point. The point stands `point` digits to
the right of the place before the first digit, and zeros fill the gap when that
is outside the digits. -/

def digitText (decimal : Decimal) : List Char :=
  Text.digitsOfNatural decimal.digits

def point (decimal : Decimal) : Int :=
  decimal.digitText.length + decimal.exponent

def wholeText (decimal : Decimal) : List Char :=
  match decimal.point with
  | .ofNat 0 | .negSucc _ => ['0']
  | .ofNat point =>
      decimal.digitText.take point ++
        List.replicate (point - decimal.digitText.length) '0'

def fractionText (decimal : Decimal) : List Char :=
  match decimal.point with
  | .ofNat point => decimal.digitText.drop point
  | .negSucc predecessor => List.replicate (predecessor + 1) '0' ++ decimal.digitText

example : wholeText ⟨125, -5⟩ = "0".toList ∧ fractionText ⟨125, -5⟩ = "00125".toList := by
  decide

end Decimal

end DeskCalculator.Number
