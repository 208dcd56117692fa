import DeskCalculator.Text.Blank

/-! Command words are compared in lower case. They are made of ASCII letters, digits
and a few signs without case, so only characters whose lower case holds an ASCII
letter can make a difference: the capitals `A` to `Z`, the kelvin sign, whose lower
case is `k`, and the capital `I` with a dot, whose lower case is an `i` and a
combining dot. Every other character is left as it is. -/

namespace DeskCalculator.Text

def lowerCase (character : Char) : List Char :=
  if character == '\u212a' then ['k']
  else if character == '\u0130' then ['i', '\u0307']
  else [character.toLower]

def word (text : List Char) : List Char :=
  (trim text).flatMap lowerCase

example : word " Bac\u212a\t".toList = "back".toList := by decide

end DeskCalculator.Text
