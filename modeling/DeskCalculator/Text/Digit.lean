/-! Only the ten ASCII digits count as digits. A run of digits is read as a natural
number from left to right; `Nat.toDigits` is the way back. -/

namespace DeskCalculator.Text

def isDigit (character : Char) : Bool :=
  '0' ≤ character && character ≤ '9'

def digitValue (character : Char) : Nat :=
  character.toNat - '0'.toNat

/-- The number that a run of digits writes; the empty run writes zero. -/
def naturalOfDigits (digits : List Char) : Nat :=
  digits.foldl (fun value digit => 10 * value + digitValue digit) 0

def digitsOfNatural (value : Nat) : List Char :=
  Nat.toDigits 10 value

def digitsOfInteger : Int → List Char
  | .ofNat value => digitsOfNatural value
  | .negSucc value => '-' :: digitsOfNatural (value + 1)

/-- Natural numbers that are typed or stored fit in 64 bits. -/
def wordBound : Nat :=
  18446744073709551616

/-- A natural number below `bound`, written with digits only, at least one, and
with at most one plus sign in front. -/
def naturalBelow? (bound : Nat) (text : List Char) : Option Nat :=
  let digits := match text with
    | '+' :: rest => rest
    | _ => text
  if !digits.isEmpty && digits.all isDigit && naturalOfDigits digits < bound then
    some (naturalOfDigits digits)
  else
    none

example : naturalBelow? 100 "+07".toList = some 7 := by decide

end DeskCalculator.Text
