import DeskCalculator.Number.Decimal

/-! A literal is what an expression may hold: digits with at most one point among,
before or after them. A number, as a function reads it off the display, may also
have a sign, an exponent, or be one of the words for infinity and not-a-number. -/

namespace DeskCalculator.Number

/-- Cuts a text after its longest beginning of the form `digit* ('.' digit*)?`. -/
def splitLiteral (text : List Char) : List Char × List Char :=
  let whole := text.takeWhile Text.isDigit
  match text.dropWhile Text.isDigit with
  | '.' :: rest =>
      (whole ++ '.' :: rest.takeWhile Text.isDigit, rest.dropWhile Text.isDigit)
  | rest => (whole, rest)

/-- A point alone is the one text of this form that has no digit and is not empty. -/
def isLiteral (text : List Char) : Bool :=
  (splitLiteral text).2.isEmpty && text.any Text.isDigit

def Decimal.ofLiteral (text : List Char) : Decimal :=
  let whole := text.takeWhile Text.isDigit
  let fraction := (text.dropWhile Text.isDigit).drop 1
  ⟨Text.naturalOfDigits (whole ++ fraction), -(fraction.length : Int)⟩

def ofLiteral (text : List Char) : Float :=
  ofCode false (Decimal.ofLiteral text).code

/-- An optional sign, cut off: whether it is a minus, and what follows. -/
def splitSign : List Char → Bool × List Char
  | '-' :: rest => (true, rest)
  | '+' :: rest => (false, rest)
  | text => (false, text)

/-- An exponent with its mark: `e` or `E`, an optional sign, and digits up to the
end. No text at all is the exponent zero. -/
def exponent? : List Char → Option Int
  | [] => some 0
  | mark :: rest =>
      let (negative, digits) := splitSign rest
      if (mark == 'e' || mark == 'E') && !digits.isEmpty && digits.all Text.isDigit then
        let power := Text.naturalOfDigits digits
        some (if negative then -(power : Int) else power)
      else
        none

def decimal? (text : List Char) : Option Decimal :=
  let (literal, rest) := splitLiteral text
  if isLiteral literal then
    (exponent? rest).map fun exponent =>
      let decimal := Decimal.ofLiteral literal
      ⟨decimal.digits, decimal.exponent + exponent⟩
  else
    none

def isWord (word : String) (text : List Char) : Bool :=
  text.map Char.toLower == word.toList

/-- The number that a text writes, without blanks on either side. A sign in front
of not-a-number is read and has no effect. -/
def ofText? (text : List Char) : Option Float :=
  let (negative, magnitude) := splitSign text
  if isWord "nan" magnitude then some notANumber
  else if isWord "inf" magnitude || isWord "infinity" magnitude then
    some (infinity negative)
  else
    (decimal? magnitude).map fun decimal => ofCode negative decimal.code

example : ofText? "-2.5e1".toList = some (-25.0) := by decide +kernel

end DeskCalculator.Number
