import DeskCalculator.Proofs.Log.Message
import DeskCalculator.Proofs.Session.Channels
import DeskCalculator.Session.Course

/-! Whatever the lines of a session, the calculator shows an outcome or what editing has left of
it. So there is no line feed on the display, nor in any message of the log. -/

namespace DeskCalculator

open Text

namespace Calculator

variable {calculator : Calculator}

theorem ShowsOutcome.typedAll (shows : calculator.ShowsOutcome) (text : List Char) :
    (calculator.typedAll text).ShowsOutcome := by
  induction text generalizing calculator with
  | nil => exact shows
  | cons character text induction =>
      have next : (calculator.typed character).ShowsOutcome := by
        unfold typed
        split
        · exact shows.perform .equals
        · exact shows.perform (.press character)
      exact induction next

theorem ShowsOutcome.execute (shows : calculator.ShowsOutcome) (command : Command) :
    (calculator.execute command).calculator.ShowsOutcome := by
  cases command with
  | keys text =>
      have typed := shows.typedAll text
      rw [← typeLogged_fst] at typed
      exact typed
  | equals => exact shows.perform .equals
  | clear => exact shows.perform .clear
  | backspace => exact shows.perform .backspace
  | toggleScientific => exact shows.perform .toggleScientific
  | apply function =>
      have applied := shows.perform (.apply function)
      rw [Calculator.execute]
      split
      rename_i result after left same
      have reached : after = (calculator.apply function).2 :=
        congrArg (fun outcome => outcome.2.1) same.symm
      split <;> exact reached ▸ applied
  | showDisplay | help | quit => exact shows

theorem ShowsOutcome.turn (shows : calculator.ShowsOutcome) (line : Option (List Char)) :
    (calculator.turn line).calculator.ShowsOutcome := by
  cases line with
  | none => exact shows
  | some text =>
      have executed := shows.execute (Command.ofLine text)
      rw [Calculator.turn]
      split <;> exact executed

theorem ShowsOutcome.oneLine (shows : calculator.ShowsOutcome) : OneLine calculator.display :=
  shows.throughout.oneLine (by decide)

theorem oneLine_finished : Log.AllOneLine (recordsOf [finishedEvent]) :=
  Log.allOneLine_singleton (by decide +kernel)

theorem ShowsOutcome.allOneLine_turn (shows : calculator.ShowsOutcome)
    (line : Option (List Char)) :
    Log.AllOneLine (recordsOf (calculator.turn line).events) := by
  cases line with
  | none => exact Log.allOneLine_nil
  | some text =>
      have executed := allOneLine_execute shows.oneLine (Command.ofLine text)
      rw [Calculator.turn]
      split
      · rw [recordsOf_append, recordsOf_logged, Log.allOneLine_append]
        exact ⟨executed, Log.allOneLine_nil⟩
      · rw [recordsOf_append, recordsOf_logged, Log.allOneLine_append]
        exact ⟨executed, oneLine_finished⟩

theorem ShowsOutcome.allOneLine_session (shows : calculator.ShowsOutcome)
    (lines : List (Option (List Char))) :
    Log.AllOneLine (recordsOf (calculator.session lines).events) := by
  induction lines generalizing calculator with
  | nil => exact oneLine_finished
  | cons line lines induction =>
      have first := shows.allOneLine_turn line
      rw [session]
      dsimp only
      split
      · exact first
      · rw [recordsOf_append, Log.allOneLine_append]
        exact ⟨first, induction (shows.turn line)⟩

/-! A session has nothing to complain of before it breaks off. -/

theorem textsFor_errors_turn (line : Option (List Char)) (calculator : Calculator) :
    textsFor .errors (calculator.turn line).events = [] := by
  cases line with
  | none => rfl
  | some text =>
      rw [Calculator.turn]
      split <;> rw [textsFor_append, textsFor_logged] <;> rfl

theorem textsFor_errors_session (lines : List (Option (List Char))) (calculator : Calculator) :
    textsFor .errors (calculator.session lines).events = [] := by
  induction lines generalizing calculator with
  | nil => rfl
  | cons line lines induction =>
      have first := textsFor_errors_turn line calculator
      rw [session]
      dsimp only
      split
      · exact first
      · rw [textsFor_append, first, induction]
        rfl

end Calculator

end DeskCalculator
