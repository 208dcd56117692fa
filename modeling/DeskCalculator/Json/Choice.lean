import DeskCalculator.Json.Record

/-! One of several named values is written as a string with its name, or as an object
with the name for its only key and null behind it. -/

namespace DeskCalculator.Json

variable {Choice : Type}

/-- The choice with a given name. A string whose escapes give no text is malformed. -/
def chosen (named? : List Char → Option Choice) : Option (List Char) → Except Fault Choice
  | some name =>
      match named? name with
      | some choice => .ok choice
      | none => .error .mismatched
  | none => .error .malformed

def readEmptyChoice (choice : Choice) : List Token → Except Fault (Choice × List Token)
  | .colon :: .null :: .closeBrace :: rest => .ok (choice, rest)
  | [] | [.colon] | [.colon, .null] => .error .ended
  | .colon :: .null :: _ :: _ => .error .malformed
  | .colon :: token :: _ => .error token.mismatch
  | _ => .error .malformed

/-- The choice that an object writes, from the tokens behind its opening brace. What
is no string cannot be its key, so it is malformed even where a value of another kind
is cut off. -/
def readKeyedChoice (named? : List Char → Option Choice) :
    List Token → Except Fault (Choice × List Token)
  | [] => .error .ended
  | .string key :: rest =>
      match chosen named? key with
      | .ok choice => readEmptyChoice choice rest
      | .error fault => .error fault
  | .brokenString whenRead _ :: _ => .error whenRead
  | _ => .error .malformed

def readChoice (named? : List Char → Option Choice) (text : List Char) : Except Fault Choice :=
  match tokens text with
  | [] => .error .ended
  | .openBrace :: rest => withoutRest (readKeyedChoice named? rest)
  | .string name :: rest =>
      match chosen named? name with
      | .ok choice => withoutRest (.ok (choice, rest))
      | .error fault => .error fault
  | .brokenString whenRead _ :: _ => .error whenRead
  | _ => .error .malformed

end DeskCalculator.Json
