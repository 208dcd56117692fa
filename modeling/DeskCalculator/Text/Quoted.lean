import DeskCalculator.Text.Unmarked

/-! Text from outside is quoted before it goes into a log message: the quotation mark
and the backslash get a backslash in front, and what has no mark of its own is spelt
out, so a quoted text is one line whatever it holds. -/

namespace DeskCalculator.Text

/-- A character inside quotation marks of the given kind. -/
def escaped (mark character : Char) : List Char :=
  if character == mark || character == '\\' then ['\\', character]
  else if character == '\t' then ['\\', 't']
  else if character == '\r' then ['\\', 'r']
  else if character == '\n' then ['\\', 'n']
  else if character == '\x00' then ['\\', '0']
  else if isUnmarked character then
    ['\\', 'u', '\x7b'] ++ Nat.toDigits 16 character.toNat ++ ['\x7d']
  else [character]

def quoted (text : List Char) : String :=
  String.ofList ('"' :: text.flatMap (escaped '"') ++ ['"'])

def quotedCharacter (character : Char) : String :=
  String.ofList ('\'' :: escaped '\'' character ++ ['\''])

example : quoted "a'b\"\n".toList = "\"a'b\\\"\\n\"" := by decide +kernel

end DeskCalculator.Text
