import DeskCalculator.Calculator

/-! What can be done with a calculator, and when it fails. -/

namespace DeskCalculator

inductive Operation where
  | press (key : Char)
  | equals
  | apply (function : Function)
  | clear
  | backspace
  | toggleScientific
deriving DecidableEq, Repr

namespace Calculator

/-! The outcomes of the operations that can fail. -/

section

variable {calculator : Calculator} {misreading : Expression.Misreading} {value : Float}

theorem equals_of_ok
    (evaluated : Expression.evaluate calculator.limit calculator.display = .ok value) :
    calculator.equals = (.ok value, { calculator with display := Number.displayText value }) := by
  simp only [equals, evaluated]

theorem equals_of_error
    (failed : Expression.evaluate calculator.limit calculator.display = .error misreading) :
    calculator.equals = (.error misreading, { calculator with display := errorDisplay }) := by
  simp only [equals, failed]

theorem apply_of_off (off : calculator.scientific = false) (function : Function) :
    calculator.apply function = (.error (.scientificModeOff function), calculator) := by
  simp only [apply, off, Bool.not_false, if_true]

theorem apply_of_ok (on : calculator.scientific = true) (function : Function)
    (read : Function.operand calculator.display = .ok value) :
    calculator.apply function =
      (.ok (), { calculator with display := Number.displayText (function.apply value) }) := by
  simp only [apply, on, Bool.not_true, Bool.false_eq_true, if_false,
    Function.applyToDisplay, read, Except.map]

theorem apply_of_error (on : calculator.scientific = true) (function : Function)
    (failed : Function.operand calculator.display = .error misreading) :
    calculator.apply function =
      (.error (.misread misreading), { calculator with display := errorDisplay }) := by
  simp only [apply, on, Bool.not_true, Bool.false_eq_true, if_false,
    Function.applyToDisplay, failed, Except.map]

end

/-! Operations one after the other. -/

def perform : Operation → Calculator → Calculator
  | .press key, calculator => (calculator.press key).2
  | .equals, calculator => calculator.equals.2
  | .apply function, calculator => (calculator.apply function).2
  | .clear, calculator => calculator.clear
  | .backspace, calculator => calculator.backspace
  | .toggleScientific, calculator => calculator.toggleScientific

/-- The calculator after some operations, the first of them first. -/
def performAll (operations : List Operation) (calculator : Calculator) : Calculator :=
  operations.foldl (fun calculator operation => calculator.perform operation) calculator

/-- What an operation misreads on the display. A function outside of scientific mode does
not read it. -/
def misreading? : Operation → Calculator → Option Expression.Misreading
  | .equals, calculator =>
      match calculator.equals.1 with
      | .ok _ => none
      | .error misreading => some misreading
  | .apply function, calculator =>
      match (calculator.apply function).1 with
      | .error (.misread misreading) => some misreading
      | _ => none
  | _, _ => none

/-- The operation is one that computes, and it has a result. -/
def Succeeds : Operation → Calculator → Prop
  | .equals, calculator => ∃ value, calculator.equals.1 = .ok value
  | .apply function, calculator => (calculator.apply function).1 = .ok ()
  | _, _ => False

/-- A result goes to the display. -/
theorem Succeeds.exists_display_eq {calculator : Calculator} {operation : Operation}
    (succeeds : calculator.Succeeds operation) :
    ∃ value, (calculator.perform operation).display = Number.displayText value := by
  cases operation with
  | press | clear | backspace | toggleScientific => cases succeeds
  | equals =>
      rcases succeeds with ⟨value, evaluated⟩
      refine ⟨value, ?_⟩
      cases found : Expression.evaluate calculator.limit calculator.display with
      | ok other =>
          rw [equals_of_ok found] at evaluated
          cases evaluated
          rw [perform, equals_of_ok found]
      | error misreading =>
          rw [equals_of_error found] at evaluated
          cases evaluated
  | apply function =>
      cases on : calculator.scientific with
      | false =>
          rw [Succeeds, apply_of_off on] at succeeds
          cases succeeds
      | true =>
          cases read : Function.operand calculator.display with
          | ok value =>
              refine ⟨function.apply value, ?_⟩
              rw [perform, apply_of_ok on function read]
          | error misreading =>
              rw [Succeeds, apply_of_error on function read] at succeeds
              cases succeeds

end Calculator

end DeskCalculator
