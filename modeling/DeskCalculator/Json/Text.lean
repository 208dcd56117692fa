import DeskCalculator.Json.NumberText
import DeskCalculator.Json.StringText

namespace DeskCalculator.Json

/-- Only these four characters may stand between tokens. -/
def isBlank (character : Char) : Bool :=
  character == ' ' || character == '\t' || character == '\n' || character == '\r'

/-- The text behind a name, once its first letter has been seen. -/
def cutName : (letters text : List Char) → Except Fault (List Char)
  | [], rest => .ok rest
  | _ :: _, [] => .error .ended
  | letter :: letters, character :: rest =>
      if letter == character then cutName letters rest else .error .malformed

theorem length_cutName_le {letters text rest : List Char}
    (cut : cutName letters text = .ok rest) : rest.length ≤ text.length := by
  fun_induction cutName letters text <;> grind

def cutNamed (letters : List Char) (token : Token) (rest : List Char) :
    Token × Option (List Char) :=
  match cutName letters rest with
  | .ok rest => (token, some rest)
  | .error fault => (.broken fault fault, none)

/-- The token that starts with a character, and the text behind it if there is more
to cut. -/
def cutToken (character : Char) (rest : List Char) : Token × Option (List Char) :=
  match character with
  | '{' => (.openBrace, some rest)
  | '}' => (.closeBrace, some rest)
  | '[' => (.openBracket, some rest)
  | ']' => (.closeBracket, some rest)
  | ':' => (.colon, some rest)
  | ',' => (.comma, some rest)
  | '"' => cutString rest
  | 'n' => cutNamed "ull".toList .null rest
  | 't' => cutNamed "rue".toList (.boolean true) rest
  | 'f' => cutNamed "alse".toList (.boolean false) rest
  | _ =>
      if character == '-' || Text.isDigit character then
        match cutNumber (character :: rest) with
        | .ok (token, rest) => (token, some rest)
        | .error fault => (.broken fault .malformed, none)
      else (.broken .malformed .malformed, none)

theorem length_cutNamed_le {letters text rest : List Char} {token : Token}
    (cut : (cutNamed letters token text).2 = some rest) : rest.length ≤ text.length := by
  unfold cutNamed at cut
  split at cut
  · next named =>
      cases cut
      exact length_cutName_le named
  · cases cut

theorem length_cutToken_le {character : Char} {text rest : List Char}
    (cut : (cutToken character text).2 = some rest) : rest.length ≤ text.length := by
  unfold cutToken at cut
  split at cut
  case h_7 => exact length_cutString_le cut
  case h_8 | h_9 | h_10 => exact length_cutNamed_le cut
  case h_11 =>
    split at cut
    · split at cut
      · next numberCut =>
          cases cut
          have shorter := length_cutNumber_lt numberCut
          simp only [List.length_cons] at shorter
          omega
      · cases cut
    · cases cut
  all_goals
    cases cut
    exact Nat.le_refl _

def tokens : List Char → List Token
  | [] => []
  | character :: rest =>
      if isBlank character then tokens rest
      else
        match _cut : cutToken character rest with
        | (token, none) => [token]
        | (token, some behind) => token :: tokens behind
termination_by text => text.length
decreasing_by
  · simp
  · exact Nat.lt_succ_of_le (length_cutToken_le (congrArg Prod.snd _cut))

example : tokens " \x7b\"a\" : [-1, null]\x7d\n".toList =
    [.openBrace, .string (some ['a']), .colon, .openBracket, .number none true, .comma, .null,
      .closeBracket, .closeBrace] := by decide +kernel

end DeskCalculator.Json
