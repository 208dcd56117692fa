import DeskCalculator.Proofs.Expression.Descent
import DeskCalculator.Proofs.Expression.Displacement
import DeskCalculator.Proofs.Expression.FirstMisreading
import Mathlib.Logic.Function.Iterate

/-! A parser that is asked again goes on where it stopped, and answers like a new one for
what is left of the text. Where it stopped can be told from its answer. -/

namespace DeskCalculator.Expression

open Text Number Progress

/-- The cursor in front of what is left of a text after `place` characters. -/
def Cursor.behind (text : List Char) (place : Nat) : Cursor :=
  ⟨place, text.drop place⟩

/-- A malformed number has been passed. What else does not fit is still ahead. -/
def Misreading.stoppingPlace (misreading : Misreading) : Nat :=
  match misreading.cause with
  | .malformedNumber _ => misreading.position + 1
  | _ => misreading.position

/-- Where reading stops that comes to the result. -/
def stoppingPlace (text : List Char) : Except Misreading Float → Nat
  | .ok _ => text.length
  | .error misreading => misreading.stoppingPlace

/-- What a new evaluation of the text after `place` characters would say, counted from
the start of the whole text. -/
def answerBehind (limit : Nat) (text : List Char) (place : Nat) : Except Misreading Float :=
  (evaluate limit (text.drop place)).mapError (.moved place)

variable {limit : Nat} {text : List Char}

theorem Cursor.behind_append (passed rest : List Char) :
    behind (passed ++ rest) passed.length = ⟨passed.length, rest⟩ := by
  rw [behind, List.drop_left]

theorem Cursor.behind_length (text : List Char) :
    behind text text.length = ⟨text.length, []⟩ := by
  rw [behind, List.drop_length]

theorem Cursor.moved_behind (text : List Char) (place count : Nat) :
    (behind (text.drop place) count).moved place = behind text (count + place) := by
  simp only [behind, moved, List.drop_drop, Nat.add_comm]

/-! ## One evaluation -/

theorem stoppingPlace_finish (text : List Char) (last : Progress) :
    stoppingPlace text (last.finish.mapError (Misreading.mk text.length)) = text.length := by
  rcases last.finish_eq_ok_or_error with ⟨value, finished⟩ | unfinished
  · rw [finished]
    rfl
  · rw [unfinished]
    rfl

/-- A token that is refused has been passed if it is a point or opens a level, and is one
character long then. -/
theorem Meets.misread_stopped {passed blanks rest : List Char} {token : Token}
    {last : Progress} {cause : Misreading.Cause}
    (meets : Meets limit text passed blanks token rest last)
    (refusal : Refusal limit token last cause) :
    let misread := (Lexeme.placed passed.length blanks.length token rest).misread cause
    misread.2 = .behind text misread.1.stoppingPlace ∧
      misread.1.stoppingPlace ≤ text.length := by
  have here : Cursor.behind text (passed.length + blanks.length) =
      ⟨passed.length + blanks.length, token.text ++ rest⟩ := by
    rw [meets.text_eq, ← List.append_assoc, ← List.length_append, Cursor.behind_append]
  have next (single : token.text.length = 1) :
      Cursor.behind text (passed.length + blanks.length + 1) =
        ⟨passed.length + blanks.length + 1, rest⟩ := by
    rw [meets.text_eq, ← List.append_assoc, ← List.append_assoc, ← single,
      ← List.length_append, ← List.length_append, Cursor.behind_append]
  have within : passed.length + blanks.length + 1 ≤ text.length := by
    have positive := meets.ends.length_text_pos
    have length := congrArg List.length meets.text_eq
    simp only [List.length_append] at length
    omega
  cases refusal with
  | malformed depth level enclosing notNumeral =>
      cases meets.eq_point notNumeral
      exact ⟨(next rfl).symm, within⟩
  | tooDeep nests full =>
      rcases nests.exists_symbol with ⟨character, -, rfl⟩
      exact ⟨(next rfl).symm, within⟩
  | noOperand => exact ⟨here.symm, Nat.le_of_succ_le within⟩
  | trailing => exact ⟨here.symm, Nat.le_of_succ_le within⟩
  | unclosed => exact ⟨here.symm, Nat.le_of_succ_le within⟩

/-- An evaluation stops where its answer says. -/
theorem evaluateFrom_start (limit : Nat) (text : List Char) :
    evaluateFrom limit (.start text) =
        (evaluate limit text, .behind text (stoppingPlace text (evaluate limit text))) ∧
      stoppingPlace text (evaluate limit text) ≤ text.length := by
  rcases exists_reads limit (.start text) with ⟨tokens, last, stopped, reads, halts⟩
  cases halts with
  | atEnd nothing =>
      have blank := (Cursor.lexeme?_eq_none_iff stopped).mp nothing
      rcases reads.exists_passed with ⟨passed, textEqual, stoppedEqual⟩
      have skipped := Cursor.skipBlanks_of_blank passed.length blank
      rw [← stoppedEqual, ← List.length_append, ← textEqual] at skipped
      rw [reads.evaluate_of_end nothing, reads.evaluateFrom_eq, run_of_end nothing, skipped,
        stoppingPlace_finish, Cursor.behind_length]
      exact ⟨rfl, Nat.le_refl _⟩
  | @refused lexeme cause found refusal =>
      rcases reads.exists_meets found with ⟨passed, blanks, token, rest, meets, rfl⟩
      have stops := meets.misread_stopped refusal
      rw [reads.evaluate_of_refusal found refusal, reads.evaluateFrom_eq,
        run_of_refusal found refusal]
      exact ⟨congrArg (Prod.mk _) stops.1, stops.2⟩

theorem stoppingPlace_moved {place : Nat} (within : place ≤ text.length)
    (result : Except Misreading Float) :
    stoppingPlace text (result.mapError (.moved place)) =
      stoppingPlace (text.drop place) result + place := by
  cases result with
  | ok value =>
      show text.length = (text.drop place).length + place
      rw [List.length_drop, Nat.sub_add_cancel within]
  | error misreading =>
      rcases misreading with ⟨position, cause⟩
      cases cause with
      | malformedNumber written => exact Nat.add_right_comm position place 1
      | _ => rfl

theorem stoppingPlace_answerBehind (limit : Nat) {place : Nat} (within : place ≤ text.length) :
    place ≤ stoppingPlace text (answerBehind limit text place) ∧
      stoppingPlace text (answerBehind limit text place) ≤ text.length := by
  have bound := (evaluateFrom_start limit (text.drop place)).2
  rw [List.length_drop] at bound
  rw [answerBehind, stoppingPlace_moved within]
  omega

theorem answerBehind_length (limit : Nat) (text : List Char) :
    answerBehind limit text text.length = .error ⟨text.length, .unexpectedEnd⟩ := by
  have reads : Reads limit (.start []) [] .start (.start []) := ⟨.stop _, .stop _⟩
  have nothing : evaluate limit [] = .error ⟨0, .unexpectedEnd⟩ := reads.evaluate_of_end rfl
  rw [answerBehind, List.drop_length, nothing]
  show Except.error (Misreading.mk (0 + text.length) .unexpectedEnd) = _
  rw [Nat.zero_add]

namespace Parser

/-- The parser in front of what is left of the text, inside of no level. -/
def behind (limit : Nat) (text : List Char) (place : Nat) : Parser :=
  ⟨limit, .behind text place, 0⟩

theorem evaluate_behind (limit : Nat) {place : Nat} (within : place ≤ text.length) :
    (behind limit text place).evaluate =
      (answerBehind limit text place,
        behind limit text (stoppingPlace text (answerBehind limit text place))) := by
  have fresh := (evaluateFrom_start limit (text.drop place)).1
  rw [evaluate_eq_evaluateFrom rfl]
  simp only [behind, Cursor.behind]
  rw [evaluateFrom_eq_movedAnswer, fresh]
  simp only [movedAnswer, Cursor.moved_behind, answerBehind, stoppingPlace_moved within]
  rfl

/-! ## Any number of evaluations -/

/-- The parser after some evaluations. -/
def asked (calls : Nat) : Parser → Parser :=
  (fun parser => parser.evaluate.2)^[calls]

/-- What the parser answers after some evaluations. -/
def answer (calls : Nat) (parser : Parser) : Except Misreading Float :=
  (parser.asked calls).evaluate.1

theorem asked_succ (calls : Nat) (parser : Parser) :
    parser.asked (calls + 1) = (parser.asked calls).evaluate.2 :=
  Function.iterate_succ_apply' _ calls parser

theorem exists_asked_eq_behind (limit : Nat) (text : List Char) (calls : Nat) :
    ∃ place ≤ text.length, (start limit text).asked calls = behind limit text place := by
  induction calls with
  | zero => exact ⟨0, Nat.zero_le _, rfl⟩
  | succ calls induction =>
      rcases induction with ⟨place, within, before⟩
      refine ⟨stoppingPlace text (answerBehind limit text place),
        (stoppingPlace_answerBehind limit within).2, ?_⟩
      rw [asked_succ, before, evaluate_behind limit within]

/-- A parser that an evaluation leaves as it is answers the same ever after. -/
theorem answer_of_fixed {parser : Parser} {calls later : Nat}
    (fixed : parser.asked (calls + 1) = parser.asked calls) (le : calls ≤ later) :
    parser.answer later = parser.answer calls := by
  rw [asked_succ] at fixed
  rcases Nat.exists_eq_add_of_le' le with ⟨more, rfl⟩
  have same : parser.asked (more + calls) = parser.asked calls := by
    rw [asked, Function.iterate_add_apply]
    exact Function.iterate_fixed fixed more
  rw [answer, same, answer]

theorem answer_of_ended {parser : Parser} {calls later : Nat}
    (ended : parser.asked calls = behind limit text text.length) (le : calls ≤ later) :
    parser.answer later = .error ⟨text.length, .unexpectedEnd⟩ := by
  have evaluated := evaluate_behind limit (Nat.le_refl text.length)
  rw [answerBehind_length] at evaluated
  have fixed : parser.asked (calls + 1) = parser.asked calls := by
    rw [asked_succ, ended, evaluated]
    rfl
  rw [answer_of_fixed fixed le, answer, ended, evaluated]

/-- The evaluation of a parser that has been asked some times before starts at one place
and stops at another. -/
structure AnswersAfresh (limit : Nat) (text : List Char) (calls place stopped : Nat) :
    Prop where
  before : (start limit text).asked calls = behind limit text place
  answer_eq : (start limit text).answer calls =
    (Expression.evaluate limit (text.drop place)).mapError (.moved place)
  after : (start limit text).asked (calls + 1) = behind limit text stopped
  stopped_eq : stopped = stoppingPlace text ((start limit text).answer calls)
  place_le : place ≤ stopped
  stopped_le : stopped ≤ text.length
  ended : ∀ value, (start limit text).answer calls = .ok value →
    ∀ later, calls < later →
      (start limit text).answer later = .error ⟨text.length, .unexpectedEnd⟩
  settled : stopped = place →
    ∀ later, calls ≤ later → (start limit text).answer later = (start limit text).answer calls

theorem exists_answersAfresh (limit : Nat) (text : List Char) (calls : Nat) :
    ∃ place stopped, AnswersAfresh limit text calls place stopped := by
  rcases exists_asked_eq_behind limit text calls with ⟨place, within, before⟩
  have answered : (start limit text).answer calls = answerBehind limit text place := by
    rw [answer, before, evaluate_behind limit within]
  have after : (start limit text).asked (calls + 1) =
      behind limit text (stoppingPlace text (answerBehind limit text place)) := by
    rw [asked_succ, before, evaluate_behind limit within]
  rcases stoppingPlace_answerBehind limit within with ⟨place_le, stopped_le⟩
  refine ⟨place, stoppingPlace text (answerBehind limit text place), ?_⟩
  refine
    { before, after, place_le, stopped_le, answer_eq := answered
      stopped_eq := by rw [answered]
      ended := fun value succeeded later lt => ?_
      settled := fun stays later le => ?_ }
  · rw [← answered, succeeded] at after
    exact answer_of_ended after lt
  · rw [stays, ← before] at after
    exact answer_of_fixed after le

end Parser

end DeskCalculator.Expression
