import DeskCalculator.Number.Decimal

/-! Whether a number is in range is decided on an estimate and not on its exact value:
its leading digits, as many as fit in 64 bits, are rounded to a double and multiplied
by a power of ten, itself a double. The product of a number in range is finite. -/

namespace DeskCalculator.Json

/-- A significand with digits appended for as long as it fits in 64 bits, and the
digits left over, of which none is appended even if it would fit again. -/
def appendFitting (significand : Nat) : List Char → Nat × List Char
  | [] => (significand, [])
  | digit :: rest =>
      let longer := 10 * significand + Text.digitValue digit
      if longer < Text.wordBound then appendFitting longer rest
      else (significand, digit :: rest)

/-- The leading digits of a number with the power of ten that puts them in their
place. Digits left over before the point raise the power, and those behind it are
dropped. The digits behind the point are appended afresh, whatever was left over
before it. -/
def estimate (whole fraction : List Char) (exponent : Int) : Number.Decimal :=
  let (significand, wholeLeft) := appendFitting 0 whole
  let (significand, fractionLeft) := appendFitting significand fraction
  let places := fraction.length - fractionLeft.length
  ⟨significand, exponent + wholeLeft.length - places⟩

/-- A decimal is in range if its digits are zero, if it has no power of ten to
multiply them with, or if the product is finite and the power is at most `10 ^ 308`,
which is the largest that a double can come near to. -/
def isInRange (decimal : Number.Decimal) : Bool :=
  match decimal.exponent with
  | .ofNat power =>
      let significand := Number.Decimal.code ⟨decimal.digits, 0⟩
      let scale := Number.Decimal.code ⟨1, power⟩
      decimal.digits == 0 ||
        power ≤ 308 && Number.productCode significand scale < Number.infinityCode
  | .negSucc _ => true

example : estimate "99999999999999999999".toList [] 4 = ⟨9999999999999999999, 5⟩ := by
  decide +kernel

/-! Near the largest double the estimate may fall on either side of the exact value:
another digit can bring a number back into range. -/

example : isInRange (estimate "1".toList "79769313486231581".toList 308) = true := by
  decide +kernel

end DeskCalculator.Json
