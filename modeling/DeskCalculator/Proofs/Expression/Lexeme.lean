import DeskCalculator.Expression.Token
import DeskCalculator.Proofs.Number.Literal

/-! A text with a token ahead is blanks, the characters of the token, and a rest that
the token does not run into. Cutting finds exactly that, and needs no more of the
rest than its first character. -/

namespace DeskCalculator.Expression

open Text Number

def Token.text : Token → List Char
  | .literal text => text
  | .symbol character => [character]

/-- The token can be cut off right in front of `rest`. -/
def Token.EndsBefore (rest : List Char) : Token → Prop
  | .literal text => text ≠ [] ∧ IsCut text rest
  | .symbol character => isBlank character = false ∧ startsLiteral character = false

/-- The lexeme that stands behind `skipped` blanks, counted from `position`. -/
def Lexeme.placed (position skipped : Nat) (token : Token) (rest : List Char) : Lexeme :=
  ⟨token, ⟨position + skipped, token.text ++ rest⟩,
    ⟨position + skipped + token.text.length, rest⟩⟩

@[simp] theorem Lexeme.placed_token (position skipped : Nat) (token : Token)
    (rest : List Char) : (placed position skipped token rest).token = token := rfl

@[simp] theorem Lexeme.placed_start (position skipped : Nat) (token : Token)
    (rest : List Char) : (placed position skipped token rest).start =
      ⟨position + skipped, token.text ++ rest⟩ := rfl

@[simp] theorem Lexeme.placed_next (position skipped : Nat) (token : Token)
    (rest : List Char) : (placed position skipped token rest).next =
      ⟨position + skipped + token.text.length, rest⟩ := rfl

/-! Characters that start a literal are not blank. -/

theorem startsLiteral_eq_false_iff (character : Char) :
    startsLiteral character = false ↔
      isDigit character = false ∧ (character == '.') = false := by
  simp [startsLiteral]

theorem startsLiteral_eq_false_of_isBlank {character : Char}
    (blank : isBlank character = true) : startsLiteral character = false := by
  rw [startsLiteral_eq_false_iff]
  exact ⟨isDigit_eq_false_of_isBlank blank, beq_eq_false_of_property blank (by decide)⟩

theorem isBlank_eq_false_of_startsLiteral {character : Char}
    (starts : startsLiteral character = true) : isBlank character = false := by
  cases blank : isBlank character with
  | false => rfl
  | true => simp [startsLiteral_eq_false_of_isBlank blank] at starts

theorem joins_of_notAhead (rest : List Char) {other : List Char}
    (stops : NotAhead startsLiteral other) : Joins rest other := by
  refine .inr ⟨fun character member => ?_, fun character member => ?_⟩
  · exact ((startsLiteral_eq_false_iff character).mp (stops character member)).1
  · exact ((startsLiteral_eq_false_iff character).mp (stops character member)).2

theorem throughout_startsLiteral {literal rest : List Char} (cut : IsCut literal rest) :
    Throughout startsLiteral literal := by
  have digits {text : List Char} (all : Throughout isDigit text) :
      Throughout startsLiteral text := fun character member => by
    simp [startsLiteral, all character member]
  cases cut with
  | whole all => exact digits all
  | pointed wholeAll fractionAll =>
      have point : startsLiteral '.' = true := by decide
      exact (throughout_append _ _).mpr
        ⟨digits wholeAll, (throughout_cons _ _).mpr ⟨point, digits fractionAll⟩⟩

theorem startsLiteral_of_isCut {character : Char} {tail rest : List Char}
    (cut : IsCut (character :: tail) rest) : startsLiteral character = true :=
  throughout_startsLiteral cut character (List.mem_cons_self ..)

namespace Token.EndsBefore

variable {token : Token} {rest other : List Char}

theorem exists_text_eq (ends : token.EndsBefore rest) :
    ∃ tail, token.text = token.firstCharacter :: tail := by
  cases token with
  | literal text =>
      rcases List.exists_cons_of_ne_nil ends.1 with ⟨first, tail, rfl⟩
      exact ⟨tail, rfl⟩
  | symbol character => exact ⟨[], rfl⟩

theorem length_text_pos (ends : token.EndsBefore rest) : 0 < token.text.length := by
  rcases ends.exists_text_eq with ⟨tail, equal⟩
  simp [equal]

theorem isBlank_firstCharacter (ends : token.EndsBefore rest) :
    isBlank token.firstCharacter = false := by
  cases token with
  | literal text =>
      rcases List.exists_cons_of_ne_nil ends.1 with ⟨first, tail, rfl⟩
      exact isBlank_eq_false_of_startsLiteral (startsLiteral_of_isCut ends.2)
  | symbol character => exact ends.1

/-- The first character of a token tells a literal from a symbol. -/
theorem startsLiteral_firstCharacter (ends : token.EndsBefore rest) :
    startsLiteral token.firstCharacter =
      match token with
      | .literal _ => true
      | .symbol _ => false := by
  cases token with
  | literal text =>
      rcases List.exists_cons_of_ne_nil ends.1 with ⟨first, tail, rfl⟩
      exact startsLiteral_of_isCut ends.2
  | symbol character => exact ends.2

theorem eq_symbol {character : Char} (ends : token.EndsBefore rest)
    (symbol : (Token.symbol character).EndsBefore other)
    (same : token.firstCharacter = character) : token = .symbol character := by
  cases token with
  | literal text =>
      have starts := ends.startsLiteral_firstCharacter
      rw [same, symbol.2] at starts
      cases starts
  | symbol found => exact congrArg Token.symbol same

theorem join (ends : token.EndsBefore rest) (joins : Joins rest other) :
    token.EndsBefore other := by
  cases token with
  | literal text => exact ⟨ends.1, ends.2.join joins⟩
  | symbol character => exact ends

end Token.EndsBefore

namespace Cursor

theorem skipBlanks_append (position : Nat) {blanks rest : List Char}
    (blank : Throughout isBlank blanks) (stops : NotAhead isBlank rest) :
    skipBlanks ⟨position, blanks ++ rest⟩ = ⟨position + blanks.length, rest⟩ := by
  simp only [skipBlanks, blank.takeWhile_append stops, blank.dropWhile_append stops]

theorem skipBlanks_of_blank (position : Nat) {text : List Char}
    (blank : Throughout isBlank text) :
    skipBlanks ⟨position, text⟩ = ⟨position + text.length, []⟩ := by
  have skipped := skipBlanks_append position blank notAhead_nil
  rwa [List.append_nil] at skipped

theorem exists_skipBlanks (cursor : Cursor) :
    ∃ blanks, Throughout isBlank blanks ∧ cursor.rest = blanks ++ cursor.skipBlanks.rest ∧
      cursor.skipBlanks.position = cursor.position + blanks.length ∧
      NotAhead isBlank cursor.skipBlanks.rest :=
  ⟨cursor.rest.takeWhile isBlank, throughout_takeWhile _,
    List.takeWhile_append_dropWhile.symm, rfl, notAhead_dropWhile _⟩

theorem lexeme?_append (position : Nat) {blanks rest : List Char} {token : Token}
    (blank : Throughout isBlank blanks) (ends : token.EndsBefore rest) :
    lexeme? ⟨position, blanks ++ (token.text ++ rest)⟩ =
      some (.placed position blanks.length token rest) := by
  rcases ends.exists_text_eq with ⟨tail, equal⟩
  have stops : NotAhead isBlank (token.text ++ rest) := by
    simp [equal, ends.isBlank_firstCharacter]
  unfold lexeme?
  simp only [skipBlanks_append position blank stops]
  cases token with
  | literal text =>
      rcases ends with ⟨some, cut⟩
      rcases List.exists_cons_of_ne_nil some with ⟨first, tail, rfl⟩
      have split := splitLiteral_of_isCut cut
      rw [List.cons_append] at split
      simp [Token.text, startsLiteral_of_isCut cut, takeLiteral, split, Lexeme.placed]
  | symbol character => simp [Token.text, ends.2, Lexeme.placed]

theorem exists_of_lexeme?_eq_some {cursor : Cursor} {lexeme : Lexeme}
    (found : cursor.lexeme? = some lexeme) :
    ∃ blanks token rest, Throughout isBlank blanks ∧ token.EndsBefore rest ∧
      cursor.rest = blanks ++ (token.text ++ rest) ∧
      lexeme = .placed cursor.position blanks.length token rest := by
  rcases cursor.exists_skipBlanks with ⟨blanks, blank, restEqual, positionEqual, stops⟩
  unfold lexeme? at found
  simp only at found
  split at found
  · cases found
  · rename_i character rest equal
    rw [equal, notAhead_cons] at stops
    split at found
    · rename_i starts
      have cut := splitLiteral_isCut (character :: rest)
      have whole := splitLiteral_append (character :: rest)
      have shorter := length_splitLiteral_lt rest starts
      refine ⟨blanks, .literal (splitLiteral (character :: rest)).1,
        (splitLiteral (character :: rest)).2, blank, ⟨?_, cut⟩, ?_, ?_⟩
      · intro empty
        rw [empty, List.nil_append] at whole
        simp [whole] at shorter
      · rw [restEqual, equal, Token.text, whole]
      · cases found
        simp only [Lexeme.placed, takeLiteral, Token.text, equal, positionEqual, whole]
        congr
        simp [← equal, ← positionEqual]
    · rename_i symbol
      refine ⟨blanks, .symbol character, rest, blank, ⟨stops, by simpa using symbol⟩,
        ?_, ?_⟩
      · rw [restEqual, equal]
        rfl
      · cases found
        simp only [Lexeme.placed, Token.text, positionEqual]
        congr
        simp [← equal, ← positionEqual]

theorem lexeme?_eq_none_iff (cursor : Cursor) :
    cursor.lexeme? = none ↔ Throughout isBlank cursor.rest := by
  constructor
  · intro nothing
    rcases cursor.exists_skipBlanks with ⟨blanks, blank, restEqual, -, -⟩
    unfold lexeme? at nothing
    simp only at nothing
    split at nothing
    · rename_i equal
      rwa [restEqual, equal, List.append_nil]
    · split at nothing <;> cases nothing
  · intro blank
    unfold lexeme?
    simp only [skipBlanks_of_blank cursor.position blank]

end Cursor

/-- A text that does not start with a blank starts with a token. -/
theorem exists_token {character : Char} (notBlank : isBlank character = false)
    (tail : List Char) :
    ∃ token rest, Token.EndsBefore rest token ∧ token.text ++ rest = character :: tail ∧
      token.firstCharacter = character := by
  cases found : Cursor.lexeme? ⟨0, character :: tail⟩ with
  | none =>
      have blank := (Cursor.lexeme?_eq_none_iff _).mp found
      simp [notBlank] at blank
  | some lexeme =>
      rcases Cursor.exists_of_lexeme?_eq_some found with
        ⟨blanks, token, rest, blank, ends, restEqual, -⟩
      cases blanks with
      | cons first blanks =>
          cases restEqual
          simp [notBlank] at blank
      | nil =>
          rcases ends.exists_text_eq with ⟨more, textEqual⟩
          have same := restEqual
          rw [textEqual] at same
          exact ⟨token, rest, ends, restEqual.symm, (List.cons.inj same).1.symm⟩

end DeskCalculator.Expression
