import DeskCalculator.Proofs.Calculator.Operation
import DeskCalculator.Proofs.Session.Course
import DeskCalculator.Proofs.Session.Typing
import DeskCalculator.Session.Desk
import Mathlib.Logic.Function.Iterate

/-! A reply shows the display as the command leaves it. Each command keeps to its part of the desk,
so commands that do nothing can be left out of a run without a trace but their replies. -/

namespace DeskCalculator

/-! ## Calculators -/

namespace Calculator

/-- The calculators differ in their displays at most. -/
def SameButDisplay (before after : Calculator) : Prop :=
  after.scientific = before.scientific ∧ after.limit = before.limit

variable {before between after calculator : Calculator}

theorem SameButDisplay.refl (calculator : Calculator) : calculator.SameButDisplay calculator :=
  ⟨rfl, rfl⟩

theorem SameButDisplay.trans (first : before.SameButDisplay between)
    (second : between.SameButDisplay after) : before.SameButDisplay after :=
  ⟨second.1.trans first.1, second.2.trans first.2⟩

theorem sameButDisplay_equals (calculator : Calculator) :
    calculator.SameButDisplay calculator.equals.2 :=
  ⟨rfl, rfl⟩

theorem sameButDisplay_typed (character : Char) (calculator : Calculator) :
    calculator.SameButDisplay (calculator.typed character) := by
  unfold typed
  split
  · exact sameButDisplay_equals calculator
  · unfold press
    split <;> exact ⟨rfl, rfl⟩

theorem sameButDisplay_typedAll (text : List Char) (calculator : Calculator) :
    calculator.SameButDisplay (calculator.typedAll text) := by
  induction text generalizing calculator with
  | nil => exact .refl calculator
  | cons character text induction =>
      exact (sameButDisplay_typed character calculator).trans (induction _)

theorem sameButDisplay_apply (function : Function) (calculator : Calculator) :
    calculator.SameButDisplay (calculator.apply function).2 := by
  unfold apply
  split
  · exact .refl calculator
  · split <;> exact ⟨rfl, rfl⟩

/-! A function is applied or rejected. -/

theorem execute_apply_of_off (off : calculator.scientific = false) (function : Function) :
    let response := calculator.execute (.apply function)
    response.reply = .notice (CalculationError.scientificModeOff function).message ∧
      response.calculator = calculator := by
  simp only [execute, applyLogged, apply_of_off off, and_self]

theorem execute_apply_of_on (on : calculator.scientific = true) (function : Function) :
    let response := calculator.execute (.apply function)
    let applied := (calculator.apply function).2
    response.reply = .display applied.display ∧ response.calculator = applied := by
  cases read : Function.operand calculator.display with
  | ok value => simp only [execute, applyLogged, apply_of_ok on function read, answer, and_self]
  | error misreading =>
      simp only [execute, applyLogged, apply_of_error on function read, answer, and_self]

end Calculator

/-- The commands that may change the display. -/
def Command.edits (scientific : Bool) : Command → Bool
  | keys _ | equals | clear | backspace => true
  | apply _ => scientific
  | toggleScientific | showDisplay | help | quit => false

namespace Calculator

/-- What the reply to a command and the calculator afterwards owe to the one before. -/
structure Faithful (command : Command) (before : Calculator) (reply : Reply)
    (after : Calculator) : Prop where
  shows : match reply with
    | .display text => text = after.display
    | .notice _ | .quit => after.display = before.display
  scientific : after.scientific =
    if command = .toggleScientific then !before.scientific else before.scientific
  display : command.edits before.scientific = false → after.display = before.display
  rejected : ∀ function, command = .apply function → before.scientific = false →
    reply = .notice (CalculationError.scientificModeOff function).message ∧ after = before
  limit : after.limit = before.limit

variable {before after : Calculator}

/-- Commands that answer with the display and are no functions. -/
theorem faithful_display (command : Command) (same : before.SameButDisplay after)
    (noToggle : command ≠ .toggleScientific) (noFunction : ∀ function, command ≠ .apply function)
    (display : command.edits before.scientific = false → after.display = before.display) :
    before.Faithful command (.display after.display) after where
  shows := rfl
  scientific := by
    rw [if_neg noToggle]
    exact same.1
  display := display
  rejected function equal := absurd equal (noFunction function)
  limit := same.2

theorem faithful_execute (command : Command) (calculator : Calculator) :
    let response := calculator.execute command
    calculator.Faithful command response.reply response.calculator := by
  cases command with
  | keys text =>
      have same := calculator.sameButDisplay_typedAll text
      rw [← typeLogged_fst] at same
      exact faithful_display (.keys text) same nofun nofun nofun
  | equals => exact faithful_display .equals calculator.sameButDisplay_equals nofun nofun nofun
  | clear =>
      have same : calculator.SameButDisplay calculator.clear := ⟨rfl, rfl⟩
      exact faithful_display .clear same nofun nofun nofun
  | backspace =>
      have same : calculator.SameButDisplay calculator.backspace := ⟨rfl, rfl⟩
      exact faithful_display .backspace same nofun nofun nofun
  | showDisplay =>
      exact faithful_display .showDisplay (.refl calculator) nofun nofun fun _ => rfl
  | toggleScientific => exact ⟨rfl, rfl, fun _ => rfl, nofun, rfl⟩
  | help | quit => exact ⟨rfl, rfl, fun _ => rfl, nofun, rfl⟩
  | apply function =>
      cases on : calculator.scientific with
      | false =>
          rcases execute_apply_of_off on function with ⟨reply, unchanged⟩
          dsimp only
          rw [reply, unchanged]
          refine ⟨rfl, rfl, fun _ => rfl, ?_, rfl⟩
          rintro _ ⟨⟩ -
          exact ⟨rfl, rfl⟩
      | true =>
          rcases execute_apply_of_on on function with ⟨reply, applied⟩
          have same := calculator.sameButDisplay_apply function
          dsimp only
          rw [reply, applied]
          refine ⟨rfl, same.1, ?_, ?_, same.2⟩
          · intro noEdit
            cases on.symm.trans noEdit
          · intro _ _ off
            cases on.symm.trans off

end Calculator

/-! ## Desks -/

namespace Desk

variable {desk : Desk}

theorem execute_of_free (free : desk.poisoned = false) (command : Command) :
    let response := desk.calculator.execute command
    desk.execute command =
      ⟨.ok response.reply, { desk with calculator := response.calculator },
        response.entries⟩ := by
  simp [execute, free]

/-- The desk after some commands, the first of them first. -/
def executeAll (commands : List Command) (desk : Desk) : Desk :=
  commands.foldl (fun desk command => (desk.execute command).desk) desk

theorem executeAll_cons (command : Command) (commands : List Command) (desk : Desk) :
    desk.executeAll (command :: commands) = (desk.execute command).desk.executeAll commands :=
  rfl

end Desk

/-- A command, the mode that it met, and what came of it. -/
structure Exchange where
  command : Command
  scientific : Bool
  outcome : Except DeskFault Reply
deriving DecidableEq

/-- Nothing but a reply can come of the command in this mode. -/
def Exchange.idle (exchange : Exchange) : Bool :=
  match exchange.command with
  | .showDisplay | .help => true
  | .apply _ => !exchange.scientific
  | _ => false

namespace Desk

variable {desk : Desk}

/-- The exchanges of a run of commands, each at the desk as the earlier ones leave it. -/
def exchanges : List Command → Desk → List Exchange
  | [], _ => []
  | command :: commands, desk =>
      let execution := desk.execute command
      ⟨command, desk.calculator.scientific, execution.outcome⟩ ::
        exchanges commands execution.desk

/-- The exchanges of a run that are not idle. -/
def lastingExchanges (commands : List Command) (desk : Desk) : List Exchange :=
  (desk.exchanges commands).filter fun exchange => !exchange.idle

theorem free_execute (free : desk.poisoned = false) (command : Command) :
    (desk.execute command).desk.poisoned = false := by
  rw [execute_of_free free]
  exact free

theorem execute_of_idle (free : desk.poisoned = false) {command : Command}
    {outcome : Except DeskFault Reply}
    (idle : Exchange.idle ⟨command, desk.calculator.scientific, outcome⟩ = true) :
    (desk.execute command).desk = desk := by
  have same : (desk.calculator.execute command).calculator = desk.calculator := by
    cases command with
    | showDisplay | help => rfl
    | apply function =>
        have off : desk.calculator.scientific = false := by simpa [Exchange.idle] using idle
        exact ((desk.calculator.faithful_execute _).rejected function rfl off).2
    | keys | equals | clear | backspace | toggleScientific | quit => cases idle
  rw [execute_of_free free]
  dsimp only
  rw [same]

theorem ok_of_mem_exchanges (free : desk.poisoned = false) {commands : List Command}
    {exchange : Exchange} (member : exchange ∈ desk.exchanges commands) :
    ∃ reply, exchange.outcome = .ok reply := by
  induction commands generalizing desk with
  | nil => cases member
  | cons command commands induction =>
      rcases List.mem_cons.mp member with rfl | member
      · exact ⟨_, congrArg Execution.outcome (execute_of_free free command)⟩
      · exact induction (free_execute free command) member

theorem lastingExchanges_cons (command : Command) (commands : List Command) (desk : Desk) :
    let execution := desk.execute command
    let exchange := ⟨command, desk.calculator.scientific, execution.outcome⟩
    desk.lastingExchanges (command :: commands) =
      if exchange.idle then execution.desk.lastingExchanges commands
      else exchange :: execution.desk.lastingExchanges commands := by
  intro execution exchange
  have split : desk.exchanges (command :: commands) =
      exchange :: execution.desk.exchanges commands := rfl
  rw [lastingExchanges, split, List.filter_cons]
  cases exchange.idle <;> rfl

/-- Commands that are idle where they are executed can be left out. -/
theorem run_lastingExchanges (free : desk.poisoned = false) (commands : List Command) :
    let lasting := desk.lastingExchanges commands
    let kept := lasting.map Exchange.command
    desk.executeAll kept = desk.executeAll commands ∧ desk.exchanges kept = lasting := by
  induction commands generalizing desk with
  | nil => exact ⟨rfl, rfl⟩
  | cons command commands induction =>
      rcases induction (free_execute free command) with ⟨left, exchanged⟩
      rw [lastingExchanges_cons, executeAll_cons]
      dsimp only
      split
      · rename_i idle
        rw [execute_of_idle free idle] at left exchanged ⊢
        exact ⟨left, exchanged⟩
      · refine ⟨left, ?_⟩
        rw [List.map_cons, exchanges, exchanged]

theorem free_executeAll (free : desk.poisoned = false) (commands : List Command) :
    let reached := desk.executeAll commands
    reached.poisoned = false ∧ reached.settings = desk.settings ∧
      reached.calculator.limit = desk.calculator.limit := by
  induction commands generalizing desk with
  | nil => exact ⟨free, rfl, rfl⟩
  | cons command commands induction =>
      have executed := execute_of_free free command
      have same := (desk.calculator.faithful_execute command).limit
      rcases induction (free_execute free command) with ⟨freed, settings, limit⟩
      rw [executed] at settings limit freed
      rw [executeAll_cons, executed]
      exact ⟨freed, settings, limit.trans same⟩

theorem scientific_executeAll (free : desk.poisoned = false) (commands : List Command) :
    (desk.executeAll commands).calculator.scientific =
      not^[commands.count .toggleScientific] desk.calculator.scientific := by
  induction commands generalizing desk with
  | nil => rfl
  | cons command commands induction =>
      have flag := (desk.calculator.faithful_execute command).scientific
      have executed := execute_of_free free command
      rw [executeAll_cons, induction (free_execute free command), executed]
      dsimp only
      rw [flag, List.count_cons]
      by_cases toggles : command = .toggleScientific
      · simp [toggles]
      · simp [toggles]

/-- A session answers its lines as the desk does. -/
theorem run_ofLine (free : desk.poisoned = false) (texts : List (List Char)) :
    let commands := texts.map Command.ofLine
    (desk.executeAll commands).calculator = desk.calculator.respondAll texts ∧
      (desk.exchanges commands).map Exchange.outcome =
        (desk.calculator.replies texts).map .ok := by
  induction texts generalizing desk with
  | nil => exact ⟨rfl, rfl⟩
  | cons text texts induction =>
      have executed := execute_of_free free (Command.ofLine text)
      rcases induction (free_execute free (Command.ofLine text)) with ⟨left, outcomes⟩
      rw [executed] at left outcomes
      constructor
      · rw [List.map_cons, executeAll_cons, executed, left]
        rfl
      · rw [List.map_cons, exchanges, executed, List.map_cons, outcomes]
        rfl

theorem executes_faithfully (desk : Desk) (free : desk.poisoned = false) :
    (∀ command,
      let execution := desk.execute command
      ∃ reply, execution.outcome = .ok reply ∧
        desk.calculator.Faithful command reply execution.desk.calculator ∧
        execution.desk.settings = desk.settings ∧ execution.desk.poisoned = false) ∧
    ∀ commands,
      let reached := desk.executeAll commands
      let lasting := desk.lastingExchanges commands
      let kept := lasting.map Exchange.command
      (∀ exchange ∈ desk.exchanges commands, ∃ reply, exchange.outcome = .ok reply) ∧
        reached.calculator.scientific =
          not^[commands.count .toggleScientific] desk.calculator.scientific ∧
        reached.calculator.limit = desk.calculator.limit ∧ reached.settings = desk.settings ∧
        desk.executeAll kept = reached ∧ desk.exchanges kept = lasting := by
  constructor
  · intro command execution
    have executed : execution = _ := execute_of_free free command
    rw [executed]
    exact ⟨_, rfl, desk.calculator.faithful_execute command, rfl, free⟩
  · intro commands reached lasting kept
    rcases free_executeAll free commands with ⟨-, settings, limit⟩
    exact ⟨fun exchange member => ok_of_mem_exchanges free member,
      scientific_executeAll free commands, limit, settings, run_lastingExchanges free commands⟩

/-- The first of the two functions comes too early. -/
theorem executes_faithfully_around_rejection :
    let desk := start .default
    let commands := [.keys "4".toList, .apply .squareRoot, .showDisplay, .toggleScientific, .help,
      .apply .squareRoot]
    desk.poisoned = false ∧
      desk.executeAll [.keys "4".toList, .toggleScientific, .apply .squareRoot] =
        desk.executeAll commands ∧
      (desk.executeAll commands).calculator = ⟨"2.0".toList, true, 1000⟩ := by
  intro desk commands
  have free : desk.poisoned = false := rfl
  have kept : (desk.lastingExchanges commands).map Exchange.command =
      [.keys "4".toList, .toggleScientific, .apply .squareRoot] := by decide +kernel
  rcases (executes_faithfully desk free).2 commands with ⟨-, -, -, -, same, -⟩
  rw [kept] at same
  exact ⟨free, same, by decide +kernel⟩

end Desk

end DeskCalculator
