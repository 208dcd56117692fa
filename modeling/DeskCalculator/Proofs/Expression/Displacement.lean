import DeskCalculator.Proofs.Expression.Reading

/-! What lies in front of a cursor has no influence on what is read from it, but for the
positions in the answer. -/

namespace DeskCalculator.Expression

open Progress

def Cursor.moved (count : Nat) (cursor : Cursor) : Cursor :=
  ⟨cursor.position + count, cursor.rest⟩

def Misreading.moved (count : Nat) (misreading : Misreading) : Misreading :=
  ⟨misreading.position + count, misreading.cause⟩

def Lexeme.moved (count : Nat) (lexeme : Lexeme) : Lexeme :=
  ⟨lexeme.token, lexeme.start.moved count, lexeme.next.moved count⟩

/-- The answer to the same text read further on. -/
def movedAnswer (count : Nat) (answer : Except Misreading Float × Cursor) :
    Except Misreading Float × Cursor :=
  (answer.1.mapError (.moved count), answer.2.moved count)

variable {limit : Nat}

theorem Cursor.skipBlanks_moved (count : Nat) (cursor : Cursor) :
    (cursor.moved count).skipBlanks = cursor.skipBlanks.moved count := by
  simp only [skipBlanks, moved, Nat.add_right_comm]

theorem Lexeme.placed_moved (position count skipped : Nat) (token : Token)
    (rest : List Char) :
    placed (position + count) skipped token rest =
      (placed position skipped token rest).moved count := by
  simp only [placed, moved, Cursor.moved, Nat.add_right_comm _ count]

theorem Cursor.lexeme?_moved (count : Nat) (cursor : Cursor) :
    (cursor.moved count).lexeme? = cursor.lexeme?.map (.moved count) := by
  cases found : cursor.lexeme? with
  | none =>
      have blank := (lexeme?_eq_none_iff cursor).mp found
      exact (lexeme?_eq_none_iff (cursor.moved count)).mpr blank
  | some lexeme =>
      rcases exists_of_lexeme?_eq_some found with
        ⟨blanks, token, rest, blank, ends, restEqual, rfl⟩
      rw [moved, restEqual, lexeme?_append _ blank ends, Lexeme.placed_moved]
      rfl

theorem Lexeme.misread_moved (count : Nat) (lexeme : Lexeme) (cause : Misreading.Cause) :
    (lexeme.moved count).misread cause =
      ((lexeme.misread cause).1.moved count, (lexeme.misread cause).2.moved count) := by
  cases cause <;> rfl

theorem Progress.run_moved (count : Nat) (progress : Progress) (cursor : Cursor) :
    progress.run limit (cursor.moved count) =
      movedAnswer count (progress.run limit cursor) := by
  cases found : cursor.lexeme? with
  | none =>
      have foundThere : (cursor.moved count).lexeme? = none := by
        rw [Cursor.lexeme?_moved, found, Option.map_none]
      rw [run_of_end found, run_of_end foundThere, Cursor.skipBlanks_moved]
      cases progress.finish <;> rfl
  | some lexeme =>
      have foundThere : (cursor.moved count).lexeme? = some (lexeme.moved count) := by
        rw [Cursor.lexeme?_moved, found, Option.map_some]
      rcases moves_or_refused limit lexeme.token progress with ⟨next, move⟩ | ⟨cause, refusal⟩
      · rw [run_of_move found move, run_of_move foundThere move]
        exact run_moved count next lexeme.next
      · rw [run_of_refusal found refusal, run_of_refusal foundThere refusal,
          Lexeme.misread_moved]
        rfl
termination_by cursor.rest.length
decreasing_by exact Cursor.length_next_lt found

theorem evaluateFrom_eq_movedAnswer (position : Nat) (rest : List Char) :
    evaluateFrom limit ⟨position, rest⟩ =
      movedAnswer position (evaluateFrom limit (.start rest)) := by
  have moved : Progress.start.run limit (.moved position (.start rest)) = _ :=
    Progress.run_moved position .start (.start rest)
  rwa [Cursor.moved, Cursor.start, Nat.zero_add] at moved

end DeskCalculator.Expression
