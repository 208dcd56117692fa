import DeskCalculator.Function

/-! A display that is typed on, and a switch for scientific mode. An error is shown as
a word on the display and has no other trace: it is typed on and deleted from like
any other text, and it reads as neither an expression nor a number. -/

namespace DeskCalculator

/-- The keys that write their own character. -/
def keys : List Char :=
  "0123456789+-*/.^()".toList

def errorDisplay : List Char :=
  "Error".toList

structure Calculator where
  display : List Char
  scientific : Bool
  limit : Nat
deriving DecidableEq, Repr

inductive CalculationError where
  | misread (misreading : Expression.Misreading)
  | scientificModeOff (function : Function)
deriving DecidableEq, Repr

def CalculationError.message : CalculationError → String
  | misread misreading => misreading.message
  | scientificModeOff function =>
      s!"'{function.label}' is only available in scientific mode (type 'sci')"

namespace Calculator

def start (limit : Nat) (scientific : Bool) : Calculator :=
  ⟨[], scientific, limit⟩

def isError (calculator : Calculator) : Bool :=
  calculator.display == errorDisplay

/-- Types one character. Anything but a key is left out; the answer says whether it
was taken. -/
def press (key : Char) (calculator : Calculator) : Bool × Calculator :=
  if keys.contains key then
    (true, { calculator with display := calculator.display ++ [key] })
  else
    (false, calculator)

def equals (calculator : Calculator) : Except Expression.Misreading Float × Calculator :=
  let result := Expression.evaluate calculator.limit calculator.display
  let shown := match result with
    | .ok value => Number.displayText value
    | .error _ => errorDisplay
  (result, { calculator with display := shown })

/-- Applies a function to the number on the display. Outside of scientific mode
nothing is read and nothing changes. -/
def apply (function : Function) (calculator : Calculator) :
    Except CalculationError Unit × Calculator :=
  if !calculator.scientific then (.error (.scientificModeOff function), calculator)
  else
    match function.applyToDisplay calculator.display with
    | .ok shown => (.ok (), { calculator with display := shown })
    | .error misreading =>
        (.error (.misread misreading), { calculator with display := errorDisplay })

def clear (calculator : Calculator) : Calculator :=
  { calculator with display := [] }

def backspace (calculator : Calculator) : Calculator :=
  { calculator with display := calculator.display.dropLast }

def toggleScientific (calculator : Calculator) : Calculator :=
  { calculator with scientific := !calculator.scientific }

example : (start 1000 false).equals.2.isError = true := by decide +kernel

end Calculator

end DeskCalculator
