/-! Control characters and escape sequences steer a terminal and say nothing. Plain text
is what is left without them: the characters that show, and the breaks between them.
An escape sequence takes every character up to the one that ends it. -/

namespace DeskCalculator.Text

def isBreak (character : Char) : Bool :=
  character == '\t' || character == '\n' || character == '\x0C' || character == '\r'

def isPlain (character : Char) : Bool :=
  isBreak character || ' ' ≤ character && character != '\x7F'

/-- How far an escape sequence has come: nothing stands behind its escape character,
intermediates do, it is a control sequence, or it holds a command or another string. -/
inductive EscapePart where
  | opening
  | intermediate
  | control
  | command
  | string
deriving DecidableEq, Repr

def escape : Char :=
  '\x1B'

namespace EscapePart

/-- What a sequence has come to with the character behind its escape character. -/
def opened (character : Char) : Option EscapePart :=
  if ' ' ≤ character && character ≤ '/' then some intermediate
  else
    match character with
    | '[' => some control
    | ']' => some command
    | 'P' | 'X' | '^' | '_' => some string
    | _ => if '0' ≤ character && character ≤ '~' then none else some opening

/-- What a sequence has come to with a further character; none if it is over. A break
ends it outside of strings, and each part has final characters of its own. -/
def next (part : EscapePart) (character : Char) : Option EscapePart :=
  if character == escape then some opening
  else if character == '\x18' || character == '\x1A' then none
  else
    match part with
    | opening => if isBreak character then none else opened character
    | intermediate =>
        if isBreak character || '0' ≤ character && character ≤ '~' then none
        else some intermediate
    | control =>
        if isBreak character || '@' ≤ character && character ≤ '~' then none
        else some control
    | command => if character == '\x07' then none else some command
    | string => some string

end EscapePart

/-- Plain text from inside an escape sequence on, or from outside of any. A break that
ends a sequence stays. -/
def plainFrom : Option EscapePart → List Char → List Char
  | _, [] => []
  | none, character :: rest =>
      if character == escape then plainFrom (some .opening) rest
      else if isPlain character then character :: plainFrom none rest
      else plainFrom none rest
  | some part, character :: rest =>
      match part.next character with
      | some part => plainFrom (some part) rest
      | none =>
          if isBreak character then character :: plainFrom none rest
          else plainFrom none rest

def plain (text : List Char) : List Char :=
  plainFrom none text

example : plain "\x1B[1;31mred\x1B[0m".toList = "red".toList := by decide +kernel

end DeskCalculator.Text
