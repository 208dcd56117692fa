import DeskCalculator.Expression.Cursor

/-! An expression is cut into literals and single characters, with blanks between
them. Cutting never fails: a point without digits is a literal and a character
that has no meaning is a symbol, and what becomes of them is decided where they
turn up. -/

namespace DeskCalculator.Expression

inductive Token where
  | literal (text : List Char)
  | symbol (character : Char)
deriving DecidableEq, Repr

/-- The first character of a token. A literal that was cut from a text has one. -/
def Token.firstCharacter : Token → Char
  | .literal text => text.headD '.'
  | .symbol character => character

/-- A token in its place: where it starts and where the text goes on after it. -/
structure Lexeme where
  token : Token
  start : Cursor
  next : Cursor
deriving DecidableEq, Repr

def startsLiteral (character : Char) : Bool :=
  Text.isDigit character || character == '.'

/-- The next token after the blanks ahead; none at the end of the text. -/
def Cursor.lexeme? (cursor : Cursor) : Option Lexeme :=
  let start := cursor.skipBlanks
  match start.rest with
  | [] => none
  | character :: rest =>
      if startsLiteral character then
        some ⟨.literal start.takeLiteral.1, start, start.takeLiteral.2⟩
      else
        some ⟨.symbol character, start, ⟨start.position + 1, rest⟩⟩

example : (Cursor.start " 2.5)".toList).lexeme? =
    some ⟨.literal "2.5".toList, ⟨1, "2.5)".toList⟩, ⟨4, ")".toList⟩⟩ := by decide

/-! Every token takes at least one character, so the tokens of a text come to an
end. -/

theorem length_dropWhile_le (property : Char → Bool) (text : List Char) :
    (text.dropWhile property).length ≤ text.length :=
  (List.dropWhile_sublist property).length_le

theorem length_splitLiteral_le (text : List Char) :
    (Number.splitLiteral text).2.length ≤ text.length := by
  have shorter := length_dropWhile_le Text.isDigit text
  unfold Number.splitLiteral
  split
  · rename_i tail equal
    rw [equal] at shorter
    exact Nat.le_trans (length_dropWhile_le Text.isDigit tail) (Nat.le_of_succ_le shorter)
  · exact shorter

theorem length_splitLiteral_lt {character : Char} (rest : List Char)
    (starts : startsLiteral character = true) :
    (Number.splitLiteral (character :: rest)).2.length < (character :: rest).length := by
  by_cases digit : Text.isDigit character = true
  · unfold Number.splitLiteral
    rw [List.dropWhile_cons_of_pos digit]
    have shorter := length_dropWhile_le Text.isDigit rest
    split
    · rename_i tail equal
      rw [equal] at shorter
      have tailShorter := length_dropWhile_le Text.isDigit tail
      simp only [List.length_cons] at shorter ⊢
      omega
    · simp only [List.length_cons]
      omega
  · have point : character = '.' := by
      simpa [startsLiteral, digit] using starts
    subst point
    have tailShorter := length_dropWhile_le Text.isDigit rest
    have noDigit : Text.isDigit '.' = false := by decide
    simp only [Number.splitLiteral, List.dropWhile_cons, noDigit, List.length_cons]
    exact Nat.lt_succ_of_le tailShorter

theorem Cursor.length_next_lt {cursor : Cursor} {lexeme : Lexeme}
    (found : cursor.lexeme? = some lexeme) :
    lexeme.next.rest.length < cursor.rest.length := by
  have skipped : cursor.skipBlanks.rest.length ≤ cursor.rest.length :=
    length_dropWhile_le Text.isBlank cursor.rest
  unfold Cursor.lexeme? at found
  simp only at found
  split at found
  · cases found
  · rename_i character rest equal
    rw [equal] at skipped
    split at found
    · rename_i starts
      cases found
      have shorter := length_splitLiteral_lt rest starts
      rw [← equal] at shorter
      simp only [Cursor.takeLiteral]
      exact Nat.lt_of_lt_of_le shorter (equal ▸ skipped)
    · cases found
      exact skipped

end DeskCalculator.Expression
