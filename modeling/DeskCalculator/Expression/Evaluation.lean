import DeskCalculator.Expression.Progress
import DeskCalculator.Outcome

/-! Reading an expression from a cursor to the end of its text. The answer is the
value or the first misreading, and the cursor at the place where reading
stopped. -/

namespace DeskCalculator.Expression

/-- A cause with the place it is about, and the cursor where reading stops. Nesting
goes too deep behind the character that opens the level. A malformed number is
reported where it starts and has been passed; any other token stays unread. -/
def Lexeme.misread (lexeme : Lexeme) (cause : Misreading.Cause) : Misreading × Cursor :=
  match cause with
  | .nestedTooDeep _ => (⟨lexeme.next.position, cause⟩, lexeme.next)
  | .malformedNumber _ => (⟨lexeme.start.position, cause⟩, lexeme.next)
  | _ => (⟨lexeme.start.position, cause⟩, lexeme.start)

def Progress.run (limit : Nat) (progress : Progress) (cursor : Cursor) :
    Except Misreading Float × Cursor :=
  match _found : cursor.lexeme? with
  | none =>
      let atEnd := cursor.skipBlanks
      (progress.finish.mapError (Misreading.mk atEnd.position), atEnd)
  | some lexeme =>
      match progress.step limit lexeme.token with
      | .ok progress => progress.run limit lexeme.next
      | .error cause =>
          let (misreading, stopped) := lexeme.misread cause
          (.error misreading, stopped)
termination_by cursor.rest.length
decreasing_by exact Cursor.length_next_lt _found

/-- The value of the text ahead of a cursor, with at most `limit` nesting levels. -/
def evaluateFrom (limit : Nat) (cursor : Cursor) : Except Misreading Float × Cursor :=
  Progress.start.run limit cursor

def evaluate (limit : Nat) (text : List Char) : Except Misreading Float :=
  (evaluateFrom limit (.start text)).1

/-! The limit in force when none is given, and the largest that may be asked for. -/

def defaultLimit : Nat := 1000

def largestLimit : Nat := 10000

example : evaluate defaultLimit "-(1 + 2) * 4".toList = .ok (-12.0) := by decide +kernel

end DeskCalculator.Expression
