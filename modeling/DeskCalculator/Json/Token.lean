/-! JSON text is cut into tokens before it is read. Cutting stops at the first place
that no token fits, with a token that says what is wrong there, so a fault counts
only for a reader that gets as far. -/

namespace DeskCalculator.Json

/-- What is wrong with a text: it ends inside a value, it is not JSON, or it is JSON
of another shape than was asked for. -/
inductive Fault where
  | ended
  | malformed
  | mismatched
deriving DecidableEq, Repr

/-- A string that is read needs its surrogate escapes in pairs; one that is skipped
does not, and a number cut off by the end of the text is malformed only where it is
skipped. So a string has a text only if its escapes give one, and a place without a
token has a fault for either purpose. A number is kept as far as readers tell numbers
apart: the natural number it writes, if it is one, and whether it is in range. -/
inductive Token where
  | openBrace
  | closeBrace
  | openBracket
  | closeBracket
  | colon
  | comma
  | null
  | boolean (value : Bool)
  | number (natural : Option Nat) (inRange : Bool)
  | string (text : Option (List Char))
  | brokenString (whenRead whenSkipped : Fault)
  | broken (whenRead whenSkipped : Fault)
deriving DecidableEq, Repr

/-- The fault of a token where a value of another kind is asked for. It is a mismatch
if the token is the start of a value at all. -/
def Token.mismatch : Token → Fault
  | closeBrace | closeBracket | colon | comma => .malformed
  | number _ false | string none => .malformed
  | brokenString whenRead _ | broken whenRead _ => whenRead
  | _ => .mismatched

end DeskCalculator.Json
