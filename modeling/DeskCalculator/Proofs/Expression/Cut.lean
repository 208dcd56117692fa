import DeskCalculator.Proofs.Expression.Lexeme

/-! A text spells the tokens that stand in it with any blanks between and around them.
Cutting goes from cursor to cursor, and what it has cut does not depend on how the
text goes on. -/

namespace DeskCalculator.Expression

open Text Number

inductive Spells : List Token → List Char → Prop
  | blanks {text : List Char} (blank : Throughout isBlank text) : Spells [] text
  | token {blanks : List Char} {token : Token} {tokens : List Token} {text : List Char}
      (blank : Throughout isBlank blanks) (rest : Spells tokens text) :
      Spells (token :: tokens) (blanks ++ (token.text ++ text))

theorem Spells.append_blanks {blanks text : List Char} {tokens : List Token}
    (blank : Throughout isBlank blanks) (spells : Spells tokens text) :
    Spells tokens (blanks ++ text) := by
  cases spells with
  | blanks more => exact .blanks ((throughout_append _ _).mpr ⟨blank, more⟩)
  | token more rest =>
      rw [← List.append_assoc]
      exact .token ((throughout_append _ _).mpr ⟨blank, more⟩) rest

/-- Each token with a blank in front. -/
def spellOut (tokens : List Token) : List Char :=
  tokens.flatMap fun token => ' ' :: token.text

theorem spells_spellOut (tokens : List Token) : Spells tokens (spellOut tokens) := by
  induction tokens with
  | nil => exact .blanks throughout_nil
  | cons token tokens induction =>
      have blank : Throughout isBlank [' '] := by decide
      have spells : Spells (token :: tokens) ([' '] ++ (token.text ++ spellOut tokens)) :=
        .token blank induction
      simpa [spellOut] using spells

theorem notAhead_spellOut (tokens : List Token) :
    NotAhead startsLiteral (spellOut tokens) := by
  cases tokens with
  | nil => exact notAhead_nil
  | cons token tokens =>
      rw [spellOut, List.flatMap_cons, List.cons_append, notAhead_cons]
      decide

inductive Cuts : Cursor → List Token → Cursor → Prop
  | stop (cursor : Cursor) : Cuts cursor [] cursor
  | token {cursor stopped : Cursor} {lexeme : Lexeme} {tokens : List Token}
      (found : cursor.lexeme? = some lexeme) (rest : Cuts lexeme.next tokens stopped) :
      Cuts cursor (lexeme.token :: tokens) stopped

namespace Cuts

variable {cursor stopped : Cursor} {tokens : List Token}

theorem exists_passed (cuts : Cuts cursor tokens stopped) :
    ∃ passed, cursor.rest = passed ++ stopped.rest ∧
      stopped.position = cursor.position + passed.length := by
  induction cuts with
  | stop => exact ⟨[], rfl, rfl⟩
  | token found rest induction =>
      rcases Cursor.exists_of_lexeme?_eq_some found with
        ⟨blanks, token, text, -, -, restEqual, rfl⟩
      rcases induction with ⟨passed, tailEqual, positionEqual⟩
      refine ⟨blanks ++ (token.text ++ passed), ?_, ?_⟩
      · rw [restEqual, show text = passed ++ _ from tailEqual]
        simp
      · simp only [positionEqual, Lexeme.placed_next, List.length_append]
        omega

theorem length_le (cuts : Cuts cursor tokens stopped) :
    cursor.position + tokens.length ≤ stopped.position := by
  induction cuts with
  | stop => exact Nat.le_refl _
  | token found rest induction =>
      rcases Cursor.exists_of_lexeme?_eq_some found with
        ⟨blanks, token, text, -, ends, -, rfl⟩
      have positive := ends.length_text_pos
      simp only [Lexeme.placed_next, List.length_cons] at induction ⊢
      omega

theorem spells (cuts : Cuts cursor tokens stopped) (atEnd : stopped.lexeme? = none) :
    Spells tokens cursor.rest := by
  induction cuts with
  | stop => exact .blanks ((Cursor.lexeme?_eq_none_iff _).mp atEnd)
  | token found rest induction =>
      rcases Cursor.exists_of_lexeme?_eq_some found with
        ⟨blanks, token, text, blank, -, restEqual, rfl⟩
      rw [restEqual]
      exact .token blank (induction atEnd)

theorem append {reached : Cursor} {more : List Token} (cuts : Cuts cursor tokens stopped)
    (further : Cuts stopped more reached) : Cuts cursor (tokens ++ more) reached := by
  induction cuts with
  | stop => exact further
  | token found rest induction => exact .token found (induction further)

/-- Of two cuts from one place, the shorter comes first. -/
theorem of_length_le {reached : Cursor} {more : List Token}
    (cuts : Cuts cursor tokens stopped) (further : Cuts cursor more reached)
    (le : tokens.length ≤ more.length) :
    ∃ between, more = tokens ++ between ∧ Cuts stopped between reached := by
  induction cuts generalizing more with
  | stop => exact ⟨more, rfl, further⟩
  | token found rest induction =>
      cases further with
      | stop => simp at le
      | token foundAgain furtherRest =>
          cases found.symm.trans foundAgain
          rcases induction furtherRest (Nat.le_of_succ_le_succ le) with
            ⟨between, rfl, cutsBetween⟩
          exact ⟨between, rfl, cutsBetween⟩

/-- What has been cut stays cut when the text goes on differently, unless it goes on
with a character that the last token would take in. -/
theorem join {passed rest other : List Char} {position : Nat}
    (cuts : Cuts ⟨position, passed ++ rest⟩ tokens ⟨position + passed.length, rest⟩)
    (joins : Joins rest other) :
    Cuts ⟨position, passed ++ other⟩ tokens ⟨position + passed.length, other⟩ := by
  generalize fromEqual : Cursor.mk position (passed ++ rest) = cursor at cuts
  generalize toEqual : Cursor.mk (position + passed.length) rest = stopped at cuts
  induction cuts generalizing position passed with
  | stop =>
      subst fromEqual
      have nothing : passed = [] := by simpa using toEqual
      subst nothing
      exact .stop _
  | @token cursor stopped lexeme tokens found cutsRest induction =>
      subst fromEqual toEqual
      rcases Cursor.exists_of_lexeme?_eq_some found with
        ⟨blanks, token, text, blank, ends, restEqual, rfl⟩
      rcases cutsRest.exists_passed with ⟨passedAfter, tailEqual, positionEqual⟩
      simp only [Lexeme.placed_next] at tailEqual positionEqual
      subst tailEqual
      have passedEqual : passed = blanks ++ (token.text ++ passedAfter) := by
        have whole : passed ++ rest = blanks ++ (token.text ++ passedAfter) ++ rest := by
          simpa using restEqual
        exact List.append_cancel_right whole
      subst passedEqual
      have foundThere := Cursor.lexeme?_append position blank
        (ends.join (joins_append joins passedAfter))
      have cutsThere := induction rfl (by rw [positionEqual])
      simp only [List.append_assoc]
      have cutsAll := Cuts.token foundThere cutsThere
      simpa [Nat.add_assoc] using cutsAll

end Cuts

end DeskCalculator.Expression
