import DeskCalculator.Number.Literal
import DeskCalculator.Number.Shortest

/-! The display shows the shortest decimal of a result, always with a point and at
least one digit on each side of it. Zeros and magnitudes from a thousandth up to
ten million, ten million not included, are written out; all others have one digit
before the point and a power of ten after an `E`. -/

namespace DeskCalculator.Number

/-- Whether a finite magnitude is shown without a power of ten. -/
def isPositional (code : Nat) : Bool :=
  code == 0 || (nearestCode 1 1000 ≤ code && code < nearestCode 10000000 1)

/-- Digits around a point, with a zero where no digit follows it. -/
def pointed (whole fraction : List Char) : List Char :=
  whole ++ '.' :: (if fraction.isEmpty then ['0'] else fraction)

def positionalText (decimal : Decimal) : List Char :=
  pointed decimal.wholeText decimal.fractionText

def scientificText (decimal : Decimal) : List Char :=
  pointed (decimal.digitText.take 1) (decimal.digitText.drop 1) ++
    'E' :: Text.digitsOfInteger (decimal.point - 1)

def signText (value : Float) : List Char :=
  if isNegative value then ['-'] else []

def displayText (value : Float) : List Char :=
  if isNotANumber value then "NaN".toList
  else
    let code := codeOf value
    let decimal := shortestDecimal code
    signText value ++
      (if code == infinityCode then "Infinity".toList
      else if isPositional code then positionalText decimal
      else scientificText decimal)

example : displayText 0.001 = "0.001".toList ∧ displayText 0.0005 = "5.0E-4".toList := by
  decide +kernel

/-- The same digits as a log message has them: never a power of ten, and a point
only in front of a fraction. -/
def plainText (value : Float) : List Char :=
  if isNotANumber value then "NaN".toList
  else
    let code := codeOf value
    let decimal := shortestDecimal code
    signText value ++
      (if code == infinityCode then "inf".toList
      else if decimal.fractionText.isEmpty then decimal.wholeText
      else decimal.wholeText ++ '.' :: decimal.fractionText)

end DeskCalculator.Number
