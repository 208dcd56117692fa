import DeskCalculator.Json.Text
import DeskCalculator.Proofs.Json.NumberText
import DeskCalculator.Proofs.Json.StringText

/-! A text spells tokens with blanks around them. Cutting it gives these tokens: where a token
ends can be told from its own characters, or for a number from the character behind it. -/

namespace DeskCalculator.Json

open Text (Throughout NotAhead throughout_nil throughout_cons notAhead_nil notAhead_cons wordBound
  naturalOfDigits)
open Number (IsWhole)

/-! ## Spelling -/

/-- What may be written for a token. -/
inductive WritesToken : Token → List Char → Prop
  | openBrace : WritesToken .openBrace ['{']
  | closeBrace : WritesToken .closeBrace ['}']
  | openBracket : WritesToken .openBracket ['[']
  | closeBracket : WritesToken .closeBracket [']']
  | colon : WritesToken .colon [':']
  | comma : WritesToken .comma [',']
  | null : WritesToken .null "null".toList
  | true : WritesToken (.boolean Bool.true) "true".toList
  | false : WritesToken (.boolean Bool.false) "false".toList
  | natural {digits : List Char} (whole : IsWhole digits)
      (bounded : naturalOfDigits digits < wordBound) :
      WritesToken (.number (some (naturalOfDigits digits)) Bool.true) digits
  | number {token : Token} {text : List Char} (writes : WritesNumber token text) :
      WritesToken token text
  | text {written text : List Char} (writes : WritesText written text) :
      WritesToken (.string (some text)) ('"' :: (written ++ ['"']))
  | string {written : List Char} {pieces : List Piece} (writes : WritesPieces written pieces) :
      WritesToken (.string (textOfPieces pieces)) ('"' :: (written ++ ['"']))

/-- Nothing behind a number continues it. -/
def Token.EndsBefore (token : Token) (rest : List Char) : Prop :=
  match token with
  | .number _ _ => NotAhead continuesNumber rest
  | _ => True

/-- Tokens and blanks in a text. -/
inductive Spells : List Token → List Char → Prop
  | blanks {blanks : List Char} (all : Throughout isBlank blanks) : Spells [] blanks
  | token {blanks text rest : List Char} {token : Token} {tokens : List Token}
      (all : Throughout isBlank blanks) (writes : WritesToken token text)
      (ends : token.EndsBefore rest) (spells : Spells tokens rest) :
      Spells (token :: tokens) (blanks ++ (text ++ rest))

/-! ## Cutting -/

theorem exists_of_writesNumber {token : Token} {text : List Char}
    (writes : WritesNumber token text) :
    (∃ natural inRange, token = .number natural inRange) ∧
      ∃ first others, text = first :: others ∧ (first = '-' ∨ Text.isDigit first = true) := by
  rcases writes with ⟨negative, isWhole, -, -⟩
  rename_i whole fractionText exponentText fraction exponent
  refine ⟨⟨_, _, rfl⟩, ?_⟩
  cases negative with
  | true => exact ⟨_, _, rfl, .inl rfl⟩
  | false =>
      rcases List.exists_cons_of_ne_nil isWhole.nonempty with ⟨first, others, rfl⟩
      exact ⟨first, _, rfl, .inr (isWhole.digits first (List.mem_cons_self ..))⟩

/-- A digit or a minus sign starts nothing but a number. -/
theorem cutToken_of_cutNumber {first : Char} {text rest : List Char} {token : Token}
    (starts : first = '-' ∨ Text.isDigit first = true)
    (cut : cutNumber (first :: text) = .ok (token, rest)) :
    isBlank first = false ∧ cutToken first text = (token, some rest) := by
  have mark : (first == '-' || Text.isDigit first) = true := by
    rcases starts with rfl | digit
    · rfl
    · rw [digit, Bool.or_true]
  have apart {other : Char} (foreign : (other == '-' || Text.isDigit other) = false) :
      first ≠ other := by
    rintro rfl
    exact absurd mark (by rw [foreign]; decide)
  refine ⟨?_, ?_⟩
  · simp only [isBlank, Bool.or_eq_false_iff, beq_eq_false_iff_ne]
    exact ⟨⟨⟨apart (by decide), apart (by decide)⟩, apart (by decide)⟩, apart (by decide)⟩
  · unfold cutToken
    split
    case h_11 => rw [if_pos mark, cut]
    all_goals exact absurd mark (by decide)

theorem cutToken_of_writesNumber {token : Token} {text rest : List Char}
    (writes : WritesNumber token text) (ends : token.EndsBefore rest) :
    ∃ first others, text = first :: others ∧ isBlank first = false ∧
      cutToken first (others ++ rest) = (token, some rest) := by
  rcases exists_of_writesNumber writes with
    ⟨⟨natural, inRange, rfl⟩, first, others, rfl, starts⟩
  have cut := cutNumber_append writes ends
  exact ⟨first, others, rfl, cutToken_of_cutNumber starts cut⟩

theorem cutToken_append {token : Token} {text rest : List Char} (writes : WritesToken token text)
    (ends : token.EndsBefore rest) :
    ∃ first others, text = first :: others ∧ isBlank first = false ∧
      cutToken first (others ++ rest) = (token, some rest) := by
  cases writes with
  | natural whole bounded =>
      exact cutToken_of_writesNumber (writesNumber_natural whole bounded) ends
  | number writes => exact cutToken_of_writesNumber writes ends
  | text writes =>
      refine ⟨_, _, rfl, by decide, ?_⟩
      rw [List.append_assoc]
      exact cutString_of_writesText writes rest
  | string writes =>
      refine ⟨_, _, rfl, by decide, ?_⟩
      rw [List.append_assoc]
      exact cutString_of_writesPieces writes rest
  | _ => exact ⟨_, _, rfl, by decide, rfl⟩

theorem tokens_blanks_append {blanks : List Char} (all : Throughout isBlank blanks)
    (rest : List Char) : tokens (blanks ++ rest) = tokens rest := by
  induction blanks with
  | nil => rfl
  | cons blank blanks induction =>
      rw [throughout_cons] at all
      rw [List.cons_append, tokens, if_pos all.1, induction all.2]

theorem tokens_of_spells {spelt : List Token} {text : List Char} (spells : Spells spelt text) :
    tokens text = spelt := by
  induction spells with
  | @blanks blanks all =>
      have skipped := tokens_blanks_append all []
      rw [List.append_nil] at skipped
      rw [skipped, tokens]
  | @token blanks text rest token spelt all writes ends _ induction =>
      rcases cutToken_append writes ends with ⟨first, others, rfl, noBlank, cut⟩
      rw [tokens_blanks_append all, List.cons_append, tokens, noBlank]
      simp only [Bool.false_eq_true, if_false]
      split
      · rename_i equal
        cases cut.symm.trans equal
      · rename_i equal
        cases cut.symm.trans equal
        rw [induction]

end DeskCalculator.Json
