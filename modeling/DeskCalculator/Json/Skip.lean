import DeskCalculator.Json.Text
import DeskCalculator.Outcome

/-! A value that nothing asks for has to be well-formed all the same. It is passed over
token by token, with a stack of the brackets that are open inside it, so nesting is
not limited. -/

namespace DeskCalculator.Json

inductive Bracket where
  | brace
  | square
deriving DecidableEq, Repr

inductive Place where
  | value
  | firstElement
  | firstKey
  | key
  | colon
  | separator
deriving DecidableEq, Repr

/-- The outcome of one token: the places and brackets after it, or the end of the
value. -/
inductive Passage where
  | inside (place : Place) (brackets : List Bracket)
  | done
deriving DecidableEq, Repr

def Passage.behindValue (brackets : List Bracket) : Passage :=
  if brackets.isEmpty then done else inside .separator brackets

def passValue (brackets : List Bracket) : Token → Except Fault Passage
  | .openBrace => .ok (.inside .firstKey (.brace :: brackets))
  | .openBracket => .ok (.inside .firstElement (.square :: brackets))
  | .null | .boolean _ | .number _ _ | .string _ => .ok (.behindValue brackets)
  | .brokenString _ whenSkipped | .broken _ whenSkipped => .error whenSkipped
  | .closeBrace | .closeBracket | .colon | .comma => .error .malformed

def passKey (brackets : List Bracket) : Token → Except Fault Passage
  | .string _ => .ok (.inside .colon brackets)
  | .brokenString _ whenSkipped => .error whenSkipped
  | _ => .error .malformed

def pass (place : Place) (brackets : List Bracket) (token : Token) : Except Fault Passage :=
  match place, brackets, token with
  | .value, _, _ => passValue brackets token
  | .firstElement, .square :: around, .closeBracket => .ok (.behindValue around)
  | .firstElement, _, _ => passValue brackets token
  | .firstKey, .brace :: around, .closeBrace => .ok (.behindValue around)
  | .firstKey, _, _ | .key, _, _ => passKey brackets token
  | .colon, _, .colon => .ok (.inside .value brackets)
  | .separator, .square :: around, .closeBracket => .ok (.behindValue around)
  | .separator, .brace :: around, .closeBrace => .ok (.behindValue around)
  | .separator, .square :: _, .comma => .ok (.inside .value brackets)
  | .separator, .brace :: _, .comma => .ok (.inside .key brackets)
  | .colon, _, _ | .separator, _, _ => .error .malformed

def skipFrom (place : Place) (brackets : List Bracket) :
    List Token → Except Fault (List Token)
  | [] => .error .ended
  | token :: rest =>
      match pass place brackets token with
      | .error fault => .error fault
      | .ok .done => .ok rest
      | .ok (.inside place brackets) => skipFrom place brackets rest

def skipValue (tokens : List Token) : Except Fault (List Token) :=
  skipFrom .value [] tokens

theorem length_skipFrom_lt {place : Place} {brackets : List Bracket} {tokens rest : List Token}
    (skipped : skipFrom place brackets tokens = .ok rest) : rest.length < tokens.length := by
  fun_induction skipFrom place brackets tokens <;> grind

theorem length_skipValue_lt {tokens rest : List Token}
    (skipped : skipValue tokens = .ok rest) : rest.length < tokens.length :=
  length_skipFrom_lt skipped

example : skipValue (tokens "[1e999, \x7b\"\": []\x7d], 2".toList) =
    .ok (tokens ", 2".toList) := by decide +kernel

end DeskCalculator.Json
