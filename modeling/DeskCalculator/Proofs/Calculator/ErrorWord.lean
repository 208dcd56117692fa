import DeskCalculator.Proofs.Calculator.Display
import DeskCalculator.Proofs.Expression.Lookahead

/-! The error word starts with a letter that starts no expression and no number. As long as
that letter leads the display nothing can be computed from it, and only clearing the
display or deleting all of it takes the letter away. -/

namespace DeskCalculator

open Text Number

/-! ## Reading the letter -/

theorem Expression.evaluate_of_letter (limit : Nat) (rest : List Char) :
    evaluate limit ('E' :: rest) = .error ⟨0, .unexpectedCharacter 'E'⟩ := by
  have front : NotAhead isBlank ('E' :: rest) := (notAhead_cons _ _).mpr (by decide)
  have skipped : (Cursor.start ('E' :: rest)).skipBlanks = .start ('E' :: rest) :=
    Cursor.skipBlanks_append 0 throughout_nil front
  have comes : (Cursor.start ('E' :: rest)).skipBlanks.rest = 'E' :: rest := by
    rw [skipped]
    rfl
  have found := Cursor.lexeme?_of_symbol comes (by decide)
  have refusal : Progress.Refusal limit (.symbol 'E') .start (.unexpectedCharacter 'E') :=
    .noOperand 0 .empty [] (by decide)
  rw [evaluate, evaluateFrom, Progress.run_of_refusal found refusal, skipped]
  rfl

theorem Number.ofText?_of_letter (rest : List Char) : ofText? ('E' :: rest) = none := by
  have sign : splitSign ('E' :: rest) = (false, 'E' :: rest) := rfl
  have lower : 'E'.toLower = 'e' := by decide
  have cut : splitLiteral ('E' :: rest) = ([], 'E' :: rest) := rfl
  have literal : isLiteral [] = false := by decide
  simp [ofText?, sign, isWord, lower, decimal?, cut, literal]

theorem Function.operand_of_letter (rest : List Char) :
    operand ('E' :: rest) = .error ⟨0, .malformedNumber ('E' :: rest)⟩ := by
  rw [operand, trim_cons (by decide), ofText?_of_letter]

namespace Calculator

/-- The letter of the error word leads the display. -/
def Marked (calculator : Calculator) : Prop :=
  ∃ rest, calculator.display = 'E' :: rest

variable {calculator : Calculator} {operation : Operation} {deletions : Nat}

theorem Marked.equals_eq (marked : calculator.Marked) :
    calculator.equals =
      (.error ⟨0, .unexpectedCharacter 'E'⟩, { calculator with display := errorDisplay }) := by
  rcases marked with ⟨rest, shown⟩
  apply equals_of_error
  rw [shown]
  exact Expression.evaluate_of_letter calculator.limit rest

theorem Marked.apply_eq (marked : calculator.Marked) (on : calculator.scientific = true)
    (function : Function) :
    calculator.apply function =
      (.error (.misread ⟨0, .malformedNumber calculator.display⟩),
        { calculator with display := errorDisplay }) := by
  rcases marked with ⟨rest, shown⟩
  apply apply_of_error on function
  rw [shown]
  exact Function.operand_of_letter rest

theorem Marked.not_succeeds (marked : calculator.Marked) (operation : Operation) :
    ¬calculator.Succeeds operation := by
  cases operation with
  | press | clear | backspace | toggleScientific => exact id
  | equals =>
      rintro ⟨value, evaluated⟩
      rw [marked.equals_eq] at evaluated
      cases evaluated
  | apply function =>
      intro succeeded
      cases on : calculator.scientific with
      | false =>
          rw [Succeeds, apply_of_off on] at succeeded
          cases succeeded
      | true =>
          rw [Succeeds, marked.apply_eq on] at succeeded
          cases succeeded

/-! ## Where the letter comes from -/

theorem marked_of_misreading? {misreading : Expression.Misreading}
    (failed : calculator.misreading? operation = some misreading) :
    (calculator.perform operation).Marked := by
  cases operation with
  | press | clear | backspace | toggleScientific => cases failed
  | equals =>
      cases evaluated : Expression.evaluate calculator.limit calculator.display with
      | ok value =>
          rw [misreading?, equals_of_ok evaluated] at failed
          cases failed
      | error found =>
          rw [perform, equals_of_error evaluated]
          exact ⟨_, rfl⟩
  | apply function =>
      cases on : calculator.scientific with
      | false =>
          rw [misreading?, apply_of_off on] at failed
          cases failed
      | true =>
          cases read : Function.operand calculator.display with
          | ok value =>
              rw [misreading?, apply_of_ok on function read] at failed
              cases failed
          | error found =>
              rw [perform, apply_of_error on function read]
              exact ⟨_, rfl⟩

theorem not_marked_of_notAhead (stops : NotAhead (· == 'E') calculator.display) :
    ¬calculator.Marked := by
  rintro ⟨rest, shown⟩
  rw [shown, notAhead_cons] at stops
  exact absurd stops (by decide)

theorem Succeeds.not_marked (succeeds : calculator.Succeeds operation) :
    ¬(calculator.perform operation).Marked := by
  rcases succeeds.exists_display_eq with ⟨value, shown⟩
  apply not_marked_of_notAhead
  rw [shown]
  exact notAhead_displayText value

theorem not_marked_press (unmarked : ¬calculator.Marked) (key : Char) :
    ¬(calculator.press key).2.Marked := by
  unfold press
  split
  · rename_i taken
    rintro ⟨rest, shown⟩
    simp only at shown
    cases display : calculator.display with
    | nil =>
        rw [display] at shown
        cases shown
        exact absurd taken (by decide)
    | cons first others =>
        rw [display] at shown
        cases shown
        exact unmarked ⟨others, display⟩
  · exact unmarked

/-! ## How long the letter lasts

Typing puts characters behind the letter, and a failure writes the whole word anew. So
deletions have to outnumber the characters of the word before they reach the letter. -/

/-- The letter leads the display and is not reached by so many deletions. -/
def Lasts (deletions : Nat) (calculator : Calculator) : Prop :=
  calculator.Marked ∧ deletions < calculator.display.length

theorem Marked.lasts (marked : calculator.Marked) : calculator.Lasts 0 := by
  refine ⟨marked, ?_⟩
  rcases marked with ⟨rest, shown⟩
  rw [shown]
  exact Nat.succ_pos _

theorem lasts_of_errorDisplay (shown : calculator.display = errorDisplay)
    (few : deletions < errorDisplay.length) : calculator.Lasts deletions :=
  ⟨⟨_, shown⟩, shown ▸ few⟩

theorem Lasts.press (lasts : calculator.Lasts deletions) (key : Char) :
    (calculator.press key).2.Lasts deletions := by
  unfold Calculator.press
  split
  · rcases lasts with ⟨⟨rest, shown⟩, more⟩
    refine ⟨⟨rest ++ [key], ?_⟩, ?_⟩
    · simp only [shown, List.cons_append]
    · rw [List.length_append]
      exact Nat.lt_add_right _ more
  · exact lasts

theorem Lasts.backspace (lasts : calculator.Lasts (deletions + 1)) :
    calculator.backspace.Lasts deletions := by
  rcases lasts with ⟨⟨rest, shown⟩, more⟩
  rw [shown, List.length_cons] at more
  have some : rest ≠ [] := by
    rintro rfl
    exact Nat.not_lt_zero _ (Nat.lt_of_succ_lt_succ more)
  refine ⟨⟨rest.dropLast, ?_⟩, ?_⟩
  · rw [Calculator.backspace, shown, List.dropLast_cons_of_ne_nil some]
  · rw [Calculator.backspace, shown, List.length_dropLast, List.length_cons]
    omega

theorem Lasts.perform (lasts : calculator.Lasts deletions)
    (few : deletions < errorDisplay.length) (kept : operation ≠ .clear)
    (other : operation ≠ .backspace) : (calculator.perform operation).Lasts deletions := by
  cases operation with
  | press key => exact lasts.press key
  | clear => exact absurd rfl kept
  | backspace => exact absurd rfl other
  | toggleScientific => exact lasts
  | equals =>
      rw [Calculator.perform, lasts.1.equals_eq]
      exact lasts_of_errorDisplay rfl few
  | apply function =>
      cases on : calculator.scientific with
      | false =>
          rw [Calculator.perform, apply_of_off on]
          exact lasts
      | true =>
          rw [Calculator.perform, lasts.1.apply_eq on]
          exact lasts_of_errorDisplay rfl few

theorem Lasts.performAll (lasts : calculator.Lasts deletions)
    (few : deletions < errorDisplay.length) {operations : List Operation}
    (uncleared : .clear ∉ operations) (within : operations.count .backspace ≤ deletions) :
    (calculator.performAll operations).Lasts (deletions - operations.count .backspace) := by
  induction operations generalizing calculator deletions with
  | nil => exact lasts
  | cons operation operations induction =>
      simp only [List.mem_cons, not_or] at uncleared
      by_cases deletes : operation = .backspace
      · subst deletes
        rw [List.count_cons_self] at within ⊢
        rcases Nat.exists_eq_succ_of_ne_zero (by omega : deletions ≠ 0) with ⟨fewer, rfl⟩
        rw [Nat.succ_sub_succ]
        exact induction lasts.backspace (by omega) uncleared.2 (by omega)
      · rw [List.count_cons_of_ne deletes] at within ⊢
        have next := lasts.perform few (Ne.symm uncleared.1) deletes
        exact induction next few uncleared.2 within

/-! ## The error word -/

/-- What a calculator does while the letter leads its display. -/
structure HoldsError (calculator : Calculator) : Prop where
  equals_fails : ∀ limit, (equals { calculator with limit }).1 =
    .error ⟨0, .unexpectedCharacter 'E'⟩
  apply_fails : calculator.scientific = true → ∀ function, (calculator.apply function).1 =
    .error (.misread ⟨0, .malformedNumber calculator.display⟩)
  apply_idle : calculator.scientific = false → ∀ function, calculator.apply function =
    (.error (.scientificModeOff function), calculator)
  stays : ∀ operation, operation ≠ .clear →
    (operation = .backspace → calculator.display.length ≠ 1) →
      (calculator.perform operation).Marked

theorem Marked.holdsError (marked : calculator.Marked) : calculator.HoldsError where
  equals_fails limit := by
    have same : Marked { calculator with limit } := marked
    rw [same.equals_eq]
  apply_fails on function := by rw [marked.apply_eq on]
  apply_idle off := apply_of_off off
  stays operation kept deletes := by
    by_cases deleting : operation = .backspace
    · subst deleting
      have more : 1 < calculator.display.length := by
        have one := marked.lasts.2
        have notOne := deletes rfl
        omega
      have lasts : calculator.Lasts (0 + 1) := ⟨marked, more⟩
      exact lasts.backspace.1
    · exact (marked.lasts.perform (by decide) kept deleting).1

theorem error_persists :
    (∀ calculator : Calculator, calculator.Marked → calculator.HoldsError) ∧
    (∀ (calculator : Calculator) (operation : Operation) (misreading : Expression.Misreading),
      calculator.misreading? operation = some misreading →
        (calculator.perform operation).Marked) ∧
    (∀ (calculator : Calculator) (operation : Operation),
      calculator.Succeeds operation → ¬(calculator.perform operation).Marked) ∧
    (∀ (calculator : Calculator) (key : Char),
      ¬calculator.Marked → ¬(calculator.press key).2.Marked) ∧
    ∀ (scientific : Bool) (limit : Nat) (earlier : List Operation) (operation : Operation),
      .clear ∉ earlier → earlier.count .backspace < 5 →
        ¬(performAll earlier ⟨errorDisplay, scientific, limit⟩).Succeeds operation := by
  refine ⟨fun _ marked => marked.holdsError, fun _ _ _ failed => marked_of_misreading? failed,
    fun _ _ succeeds => succeeds.not_marked, fun _ key unmarked => not_marked_press unmarked key,
    ?_⟩
  intro scientific limit earlier operation uncleared few
  have lasts : Lasts 4 ⟨errorDisplay, scientific, limit⟩ :=
    lasts_of_errorDisplay rfl (by decide)
  have reached := lasts.performAll (by decide) uncleared (Nat.le_of_lt_succ few)
  exact reached.1.not_succeeds operation

theorem error_persists_behind_four_deletions :
    let typedOn : Calculator := ⟨"Error5".toList, true, 2⟩
    let unclosed : Calculator := ⟨"(".toList, false, 2⟩
    let sum : Calculator := ⟨"1+1".toList, true, 2⟩
    let digit : Calculator := ⟨"7".toList, false, 2⟩
    let edits : List Operation := [.backspace, .backspace, .press '5', .backspace,
      .toggleScientific, .apply .sine, .toggleScientific, .backspace]
    typedOn.Marked ∧ typedOn.HoldsError ∧
      unclosed.misreading? .equals = some ⟨1, .unexpectedEnd⟩ ∧
      (unclosed.perform .equals).Marked ∧
      sum.Succeeds .equals ∧ ¬(sum.perform .equals).Marked ∧
      ¬digit.Marked ∧ ¬(digit.press 'E').2.Marked ∧
      .clear ∉ edits ∧ edits.count .backspace < 5 ∧
      ¬(performAll edits ⟨errorDisplay, true, 2⟩).Succeeds .equals := by
  intro typedOn unclosed sum digit edits
  have marked : typedOn.Marked := ⟨"rror5".toList, rfl⟩
  have failed : unclosed.misreading? .equals = some ⟨1, .unexpectedEnd⟩ := by decide +kernel
  have succeeds : sum.Succeeds .equals := ⟨2.0, by decide +kernel⟩
  have unmarked : ¬digit.Marked := not_marked_of_notAhead (by decide)
  have uncleared : .clear ∉ edits := by decide
  have few : edits.count .backspace < 5 := by decide
  have holds := error_persists.1 typedOn marked
  have becomes := error_persists.2.1 unclosed .equals _ failed
  have replaced := error_persists.2.2.1 sum .equals succeeds
  have typed := error_persists.2.2.2.1 digit 'E' unmarked
  have still := error_persists.2.2.2.2 true 2 edits .equals uncleared few
  exact ⟨marked, holds, failed, becomes, succeeds, replaced, unmarked, typed, uncleared, few,
    still⟩

end Calculator

end DeskCalculator
