import DeskCalculator.Proofs.Calculator.Operation
import DeskCalculator.Proofs.Number.Display

/-! In scientific mode a function reads the number that the display shows and shows its own
value. Reading a shown number loses nothing, so the texts in between leave no trace. -/

namespace DeskCalculator

open Number

/-- The value of functions applied one after the other, the first of them first. -/
def Function.composed (functions : List Function) (value : Float) : Float :=
  functions.foldl (fun value function => function.apply value) value

namespace Calculator

variable {calculator : Calculator} {value : Float}

theorem apply_of_shown (on : calculator.scientific = true)
    (shows : calculator.display = displayText value) (function : Function) :
    calculator.apply function =
      (.ok (), { calculator with display := displayText (function.apply value) }) := by
  apply apply_of_ok on function
  rw [shows]
  exact operand_displayText value

theorem performAll_apply (on : calculator.scientific = true)
    (shows : calculator.display = displayText value) (functions : List Function) :
    calculator.performAll (functions.map .apply) =
      { calculator with display := displayText (Function.composed functions value) } := by
  induction functions generalizing calculator value with
  | nil =>
      rw [Function.composed, List.foldl_nil, ← shows]
      rfl
  | cons function functions induction =>
      let next := { calculator with display := displayText (function.apply value) }
      have first : calculator.perform (.apply function) = next :=
        congrArg Prod.snd (apply_of_shown on shows function)
      have rest : next.performAll (functions.map .apply) = _ := induction on rfl
      calc
        calculator.performAll ((function :: functions).map .apply)
            = (calculator.perform (.apply function)).performAll (functions.map .apply) := rfl
        _ = next.performAll (functions.map .apply) := by rw [first]
        _ = _ := rest

/-- Each function in the list succeeds where it is applied, and nothing but the display
changes. -/
theorem apply_chain (calculator : Calculator) (value : Float)
    (on : calculator.scientific = true) (shows : calculator.display = displayText value)
    (functions : List Function) :
    (∀ earlier function later, functions = earlier ++ function :: later →
      ((calculator.performAll (earlier.map .apply)).apply function).1 = .ok ()) ∧
    calculator.performAll (functions.map .apply) =
      { calculator with display := displayText (Function.composed functions value) } ∧
    ∀ (other : Calculator) (operation : Operation), other.Succeeds operation →
      ∃ result, (other.perform operation).display = displayText result := by
  refine ⟨?_, performAll_apply on shows functions, fun _ _ => Succeeds.exists_display_eq⟩
  intro earlier function later _
  let between := { calculator with display := displayText (Function.composed earlier value) }
  have onThere : between.scientific = true := on
  rw [performAll_apply on shows earlier, apply_of_shown onThere rfl function]

theorem apply_chain_through_not_a_number :
    let shown : Calculator := ⟨"-16.0".toList, true, 3⟩
    let difference : Calculator := ⟨"1-5".toList, true, 3⟩
    shown.display = displayText (-16.0) ∧
      ((shown.performAll [.apply .squareRoot]).apply .squareRoot).1 = .ok () ∧
      shown.performAll [.apply .squareRoot, .apply .squareRoot] = ⟨"NaN".toList, true, 3⟩ ∧
      difference.Succeeds .equals ∧
      ∃ result, (difference.perform .equals).display = displayText result := by
  intro shown difference
  have shows : shown.display = displayText (-16.0) := by decide +kernel
  have chain := apply_chain shown (-16.0) rfl shows [.squareRoot, .squareRoot]
  have ends : displayText (Function.composed [.squareRoot, .squareRoot] (-16.0)) =
      "NaN".toList := by decide +kernel
  have reached := chain.2.1
  rw [ends] at reached
  have succeeds : difference.Succeeds .equals := ⟨-4.0, by decide +kernel⟩
  exact ⟨shows, chain.1 [.squareRoot] .squareRoot [] rfl, reached, succeeds,
    chain.2.2 difference .equals succeeds⟩

end Calculator

end DeskCalculator
