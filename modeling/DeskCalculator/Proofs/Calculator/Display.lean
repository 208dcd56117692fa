import DeskCalculator.Proofs.Calculator.Operation
import DeskCalculator.Proofs.Number.Display
import DeskCalculator.Proofs.Expression.Keys
import Mathlib.Data.List.Induction

/-! A display holds what is left of a text that the calculator has shown, with keys typed
behind it. It is the error word only if something has been misread since the display was
last empty. -/

namespace DeskCalculator

open Text Number

/-- The text has been shown, characters have been deleted from its end, and keys have been
typed behind what is left. -/
def Edited (text display : List Char) : Prop :=
  ∃ left typed, display = left ++ typed ∧ left <+: text ∧ Throughout keys.contains typed

namespace Edited

variable {text display : List Char}

theorem nil (text : List Char) : Edited text [] :=
  ⟨[], [], rfl, List.nil_prefix, throughout_nil⟩

theorem refl (text : List Char) : Edited text text :=
  ⟨text, [], (List.append_nil text).symm, List.prefix_refl text, throughout_nil⟩

theorem typed {key : Char} (edited : Edited text display) (taken : keys.contains key = true) :
    Edited text (display ++ [key]) := by
  rcases edited with ⟨left, typed, rfl, within, all⟩
  refine ⟨left, typed ++ [key], List.append_assoc _ _ _, within, ?_⟩
  exact (throughout_append _ _).mpr ⟨all, (throughout_cons _ _).mpr ⟨taken, throughout_nil⟩⟩

theorem dropLast (edited : Edited text display) : Edited text display.dropLast := by
  rcases edited with ⟨left, typed, rfl, within, all⟩
  rcases List.eq_nil_or_concat typed with rfl | ⟨front, last, rfl⟩
  · rw [List.append_nil]
    exact ⟨left.dropLast, [], (List.append_nil _).symm,
      (List.dropLast_prefix left).trans within, throughout_nil⟩
  · rw [List.concat_eq_append, throughout_append] at all
    refine ⟨left, front, ?_, within, all.1⟩
    rw [List.concat_eq_append, ← List.append_assoc, List.dropLast_concat]

/-- A character stays away if neither the text nor the keys have it. -/
theorem throughout {property : Char → Bool} (edited : Edited text display)
    (shown : Throughout property text) (typed : Throughout property keys) :
    Throughout property display := by
  rcases edited with ⟨left, more, rfl, within, all⟩
  refine (throughout_append _ _).mpr ⟨?_, ?_⟩
  · exact fun character member => shown character (within.subset member)
  · exact fun character member =>
      typed character (List.contains_iff_mem.mp (all character member))

theorem notAhead {property : Char → Bool} (edited : Edited text display)
    (shown : NotAhead property text) (typed : Throughout (fun key => !property key) keys) :
    NotAhead property display := by
  rcases edited with ⟨left, more, rfl, ⟨rest, rfl⟩, all⟩
  cases left with
  | nil =>
      intro character member
      have key := all character (List.mem_of_mem_head? member)
      simpa using typed character (List.contains_iff_mem.mp key)
  | cons first left => exact shown

end Edited

/-! ## One operation -/

/-- What an operation makes of the display, given what it misreads there. -/
inductive DisplayChange (display : List Char) (misread : Option Expression.Misreading) :
    List Char → Prop
  | kept : DisplayChange display misread display
  | typed (key : Char) (taken : keys.contains key = true) :
      DisplayChange display misread (display ++ [key])
  | deleted : DisplayChange display misread display.dropLast
  | emptied : DisplayChange display misread []
  | result (value : Float) : DisplayChange display misread (displayText value)
  | failed (misreading : Expression.Misreading) (known : misread = some misreading) :
      DisplayChange display misread errorDisplay

theorem Edited.change {text display after : List Char}
    {misread : Option Expression.Misreading} (edited : Edited text display)
    (change : DisplayChange display misread after) :
    Edited text after ∨ (∃ value, after = displayText value) ∨
      after = errorDisplay ∧ ∃ misreading, misread = some misreading := by
  cases change with
  | kept => exact .inl edited
  | typed key taken => exact .inl (edited.typed taken)
  | deleted => exact .inl edited.dropLast
  | emptied => exact .inl (.nil text)
  | result value => exact .inr (.inl ⟨value, rfl⟩)
  | failed misreading known => exact .inr (.inr ⟨rfl, misreading, known⟩)

namespace Calculator

theorem change_press (key : Char) (calculator : Calculator)
    (misread : Option Expression.Misreading) :
    DisplayChange calculator.display misread (calculator.press key).2.display := by
  unfold press
  split
  · rename_i taken
    exact .typed key taken
  · exact .kept

theorem change_equals (calculator : Calculator) :
    DisplayChange calculator.display (calculator.misreading? .equals)
      calculator.equals.2.display := by
  cases evaluated : Expression.evaluate calculator.limit calculator.display with
  | ok value =>
      rw [equals_of_ok evaluated]
      exact .result value
  | error misreading =>
      rw [misreading?, equals_of_error evaluated]
      exact .failed misreading rfl

theorem change_apply (function : Function) (calculator : Calculator) :
    DisplayChange calculator.display (calculator.misreading? (.apply function))
      (calculator.apply function).2.display := by
  cases on : calculator.scientific with
  | false =>
      rw [apply_of_off on]
      exact .kept
  | true =>
      cases read : Function.operand calculator.display with
      | ok value =>
          rw [apply_of_ok on function read]
          exact .result (function.apply value)
      | error misreading =>
          rw [misreading?, apply_of_error on function read]
          exact .failed misreading rfl

theorem change_perform (operation : Operation) (calculator : Calculator) :
    DisplayChange calculator.display (calculator.misreading? operation)
      (calculator.perform operation).display := by
  cases operation with
  | press key => exact calculator.change_press key _
  | equals => exact calculator.change_equals
  | apply function => exact calculator.change_apply function
  | clear => exact .emptied
  | backspace => exact .deleted
  | toggleScientific => exact .kept

/-! ## Any number of operations -/

/-- The display goes back to a result. -/
def ShowsResult (calculator : Calculator) : Prop :=
  ∃ value, Edited (displayText value) calculator.display

/-- The display goes back to a result or to the error word. -/
def ShowsOutcome (calculator : Calculator) : Prop :=
  ∃ text, (text = errorDisplay ∨ ∃ value, text = displayText value) ∧
    Edited text calculator.display

/-- Something has been misread after the last time that the display was cleared. -/
def MisreadSinceClear (operations : List Operation) (calculator : Calculator) : Prop :=
  ∃ earlier operation later misreading, operations = earlier ++ operation :: later ∧
    .clear ∉ later ∧ (calculator.performAll earlier).misreading? operation = some misreading

variable {calculator : Calculator}

theorem ShowsResult.perform {operation : Operation} (shows : calculator.ShowsResult)
    (read : calculator.misreading? operation = none) :
    (calculator.perform operation).ShowsResult := by
  rcases shows with ⟨value, edited⟩
  rcases edited.change (calculator.change_perform operation) with
    same | ⟨result, equal⟩ | ⟨-, misreading, known⟩
  · exact ⟨value, same⟩
  · exact ⟨result, equal ▸ .refl _⟩
  · cases read.symm.trans known

theorem ShowsOutcome.perform (operation : Operation) (shows : calculator.ShowsOutcome) :
    (calculator.perform operation).ShowsOutcome := by
  rcases shows with ⟨text, source, edited⟩
  rcases edited.change (calculator.change_perform operation) with
    same | ⟨result, equal⟩ | ⟨equal, -⟩
  · exact ⟨text, source, same⟩
  · exact ⟨_, .inr ⟨result, equal⟩, .refl _⟩
  · exact ⟨_, .inl equal, .refl _⟩

theorem performAll_concat (operations : List Operation) (operation : Operation)
    (calculator : Calculator) :
    calculator.performAll (operations ++ [operation]) =
      (calculator.performAll operations).perform operation := by
  rw [performAll, List.foldl_append]
  rfl

theorem showsOutcome_performAll (operations : List Operation)
    (shows : calculator.ShowsOutcome) : (calculator.performAll operations).ShowsOutcome := by
  induction operations using List.reverseRecOn with
  | nil => exact shows
  | append_singleton operations operation induction =>
      rw [performAll_concat]
      exact induction.perform operation

theorem MisreadSinceClear.concat {operations : List Operation} {operation : Operation}
    (misread : MisreadSinceClear operations calculator) (other : operation ≠ .clear) :
    MisreadSinceClear (operations ++ [operation]) calculator := by
  rcases misread with ⟨earlier, failed, later, misreading, rfl, uncleared, known⟩
  refine ⟨earlier, failed, later ++ [operation], misreading, ?_, ?_, known⟩
  · rw [List.append_assoc, List.cons_append]
  · simp [uncleared, other.symm]

theorem misreadSinceClear_or_showsResult (operations : List Operation)
    (shows : calculator.ShowsResult) :
    MisreadSinceClear operations calculator ∨
      (calculator.performAll operations).ShowsResult := by
  induction operations using List.reverseRecOn with
  | nil => exact .inr shows
  | append_singleton operations operation induction =>
      cases known : (calculator.performAll operations).misreading? operation with
      | some misreading =>
          exact .inl ⟨operations, operation, [], misreading, rfl, List.not_mem_nil, known⟩
      | none =>
          rw [performAll_concat]
          by_cases clears : operation = .clear
          · subst clears
            exact .inr ⟨0.0, .nil _⟩
          · rcases induction with misread | result
            · exact .inl (misread.concat clears)
            · exact .inr (result.perform known)

theorem ShowsResult.not_isError (shows : calculator.ShowsResult) :
    calculator.isError = false := by
  rcases shows with ⟨value, edited⟩
  have stops : NotAhead (· == 'E') calculator.display :=
    edited.notAhead (notAhead_displayText value) (by decide)
  rw [isError, beq_eq_false_iff_ne]
  intro equal
  rw [equal] at stops
  exact absurd stops (by decide)

/-- An ASCII character that is neither blank nor an equals sign. -/
def plainMark (character : Char) : Bool :=
  decide (character.toNat < 128) && !isBlank character && character != '='

theorem throughout_plainMark_displayText (value : Float) :
    Throughout plainMark (displayText value) := by
  have each : Throughout plainMark shownCharacters := by decide
  exact fun character member =>
    each character (List.contains_iff_mem.mp (throughout_displayText value character member))

theorem ShowsOutcome.throughout (shows : calculator.ShowsOutcome) :
    Throughout plainMark calculator.display := by
  rcases shows with ⟨text, rfl | ⟨value, rfl⟩, edited⟩
  · exact edited.throughout (by decide) (by decide)
  · exact edited.throughout (throughout_plainMark_displayText value) (by decide)

theorem reachable_display (limit : Nat) (scientific : Bool) (operations : List Operation) :
    let reached := (start limit scientific).performAll operations
    (∃ left typed, reached.display = left ++ typed ∧
        (left <+: errorDisplay ∨ ∃ value, left <+: displayText value) ∧
          Throughout keys.contains typed) ∧
      Throughout plainMark reached.display ∧
      (reached.isError = true → MisreadSinceClear operations (start limit scientific)) := by
  have fresh : (start limit scientific).ShowsResult := ⟨0.0, .nil _⟩
  have shown : (start limit scientific).ShowsOutcome := ⟨_, .inl rfl, .nil _⟩
  have outcome := showsOutcome_performAll operations shown
  intro reached
  refine ⟨?_, outcome.throughout, fun wrong => ?_⟩
  · rcases outcome with ⟨text, source, left, typed, equal, within, all⟩
    refine ⟨left, typed, equal, ?_, all⟩
    rcases source with rfl | ⟨value, rfl⟩
    · exact .inl within
    · exact .inr ⟨value, within⟩
  · rcases misreadSinceClear_or_showsResult operations fresh with misread | result
    · exact misread
    · cases result.not_isError.symm.trans wrong

theorem reachable_display_after_lone_sign :
    ((start 1 false).performAll [.press '+', .equals]).isError = true ∧
      MisreadSinceClear [.press '+', .equals] (start 1 false) :=
  have wrong : ((start 1 false).performAll [.press '+', .equals]).isError = true := by
    decide +kernel
  ⟨wrong, (reachable_display 1 false [.press '+', .equals]).2.2 wrong⟩

end Calculator

end DeskCalculator
