import DeskCalculator.Proofs.Session.Channels
import DeskCalculator.Proofs.Session.Course
import DeskCalculator.Proofs.Session.Desk

/-! Equals signs have the display evaluated, on a line of their own or among the keys of a line.
Each evaluation leaves one record in its category of the log, and nothing else leaves any
there. All evaluations of a session have the limit of its calculator. -/

namespace DeskCalculator

/-- A text that is evaluated, and the nesting limit for it. -/
structure Evaluation where
  limit : Nat
  text : List Char
deriving DecidableEq, Repr

/-- What an evaluation leaves in the log. -/
def Evaluation.entry (evaluation : Evaluation) : Log.Entry :=
  let shown := Text.quoted evaluation.text
  match Expression.evaluate evaluation.limit evaluation.text with
  | .ok value =>
      ⟨.debug, .evaluation, s!"{shown} -> {String.ofList (Number.plainText value)}"⟩
  | .error misreading => ⟨.warning, .evaluation, s!"{shown} failed: {misreading.message}"⟩

/-- The entries that are about evaluations. -/
def Log.evaluationEntries (entries : List Log.Entry) : List Log.Entry :=
  entries.filter fun entry => entry.category == .evaluation

theorem Log.evaluationEntries_append (earlier later : List Log.Entry) :
    Log.evaluationEntries (earlier ++ later) =
      Log.evaluationEntries earlier ++ Log.evaluationEntries later :=
  List.filter_append ..

theorem Evaluation.evaluationEntries_entry (evaluation : Evaluation) :
    Log.evaluationEntries [evaluation.entry] = [evaluation.entry] := by
  have category : evaluation.entry.category = .evaluation := by
    unfold entry
    dsimp only
    split <;> rfl
  exact List.filter_cons_of_pos (by rw [category]; rfl)

namespace Calculator

/-- The evaluation of what is on the display. -/
def evaluation (calculator : Calculator) : Evaluation :=
  ⟨calculator.limit, calculator.display⟩

/-- The evaluations while a text is typed. -/
def typedEvaluations : List Char → Calculator → List Evaluation
  | [], _ => []
  | character :: text, calculator =>
      (if character == '=' then [calculator.evaluation] else []) ++
        typedEvaluations text (calculator.typed character)

/-- The evaluations while a command is executed. -/
def evaluations (command : Command) (calculator : Calculator) : List Evaluation :=
  match command with
  | .keys text => calculator.typedEvaluations text
  | .equals => [calculator.evaluation]
  | _ => []

/-- The evaluations of a session with these lines of input. -/
def sessionEvaluations : List (Option (List Char)) → Calculator → List Evaluation
  | [], _ | none :: _, _ => []
  | some text :: lines, calculator =>
      let later := sessionEvaluations lines (calculator.respond text).calculator
      calculator.evaluations (.ofLine text) ++ if Command.ofLine text = .quit then [] else later

variable {calculator : Calculator}

/-! ## Records -/

theorem equalsLogged_snd (calculator : Calculator) :
    calculator.equalsLogged.2 = [calculator.evaluation.entry] := by
  cases evaluated : Expression.evaluate calculator.limit calculator.display with
  | ok value =>
      simp only [equalsLogged, equals_of_ok evaluated, Evaluation.entry, evaluation, evaluated]
  | error misreading =>
      simp only [equalsLogged, equals_of_error evaluated, Evaluation.entry, evaluation, evaluated]

theorem evaluationEntries_equalsLogged (calculator : Calculator) :
    Log.evaluationEntries calculator.equalsLogged.2 = [calculator.evaluation.entry] := by
  rw [equalsLogged_snd]
  exact calculator.evaluation.evaluationEntries_entry

theorem evaluationEntries_pressLogged (key : Char) (calculator : Calculator) :
    Log.evaluationEntries (calculator.pressLogged key).2 = [] := by
  unfold pressLogged
  dsimp only
  split <;> rfl

theorem evaluationEntries_typeLogged (text : List Char) (calculator : Calculator) :
    Log.evaluationEntries (calculator.typeLogged text).2 =
      (calculator.typedEvaluations text).map Evaluation.entry := by
  induction text generalizing calculator with
  | nil => rfl
  | cons character text induction =>
      rw [typedEvaluations, List.map_append, ← induction, typeLogged,
        Log.evaluationEntries_append, typed]
      cases character == '=' with
      | true => exact congrArg (· ++ _) calculator.evaluationEntries_equalsLogged
      | false => exact congrArg (· ++ _) (calculator.evaluationEntries_pressLogged character)

theorem evaluationEntries_applyLogged (function : Function) (calculator : Calculator) :
    Log.evaluationEntries (calculator.applyLogged function).2.2 = [] := by
  unfold applyLogged
  dsimp only
  split <;> rfl

theorem evaluationEntries_execute (command : Command) (calculator : Calculator) :
    Log.evaluationEntries (calculator.execute command).entries =
      (calculator.evaluations command).map Evaluation.entry := by
  cases command with
  | keys text =>
      -- The records around those of the keys are about the command.
      have around (first last : Log.Entry) (before : first.category = .command)
          (behind : last.category = .command) (entries : List Log.Entry) :
          Log.evaluationEntries (first :: entries ++ [last]) = Log.evaluationEntries entries := by
        simp [Log.evaluationEntries, before, behind]
      exact (around _ _ rfl rfl _).trans (calculator.evaluationEntries_typeLogged text)
  | equals => exact calculator.evaluationEntries_equalsLogged
  | apply function =>
      have entries := calculator.evaluationEntries_applyLogged function
      rw [execute]
      split
      rename_i result after left same
      rw [same] at entries
      split <;> exact entries
  | clear | backspace | toggleScientific | showDisplay | help | quit => rfl

theorem evaluationEntries_session (lines : List (Option (List Char)))
    (calculator : Calculator) :
    Log.evaluationEntries (recordsOf (calculator.session lines).events) =
      (calculator.sessionEvaluations lines).map Evaluation.entry := by
  induction lines generalizing calculator with
  | nil => rfl
  | cons line lines induction =>
      cases line with
      | none => rfl
      | some text =>
          rw [sessionEvaluations]
          by_cases quits : Command.ofLine text = .quit
          · rw [session, turn, quits]
            rfl
          · have executed := calculator.evaluationEntries_execute (.ofLine text)
            have split : recordsOf (calculator.session (some text :: lines)).events =
                (calculator.respond text).entries ++
                  recordsOf ((calculator.respond text).calculator.session lines).events := by
              rw [calculator.session_cons quits]
              dsimp only
              rw [recordsOf_append, recordsOf_logged]
              rfl
            rw [split, Log.evaluationEntries_append, induction, respond, executed, if_neg quits,
              List.map_append]

/-! ## Limits -/

theorem limit_of_mem_typedEvaluations {text : List Char} {evaluation : Evaluation}
    (member : evaluation ∈ calculator.typedEvaluations text) :
    evaluation.limit = calculator.limit := by
  induction text generalizing calculator with
  | nil => cases member
  | cons character text induction =>
      rcases List.mem_append.mp member with now | later
      · split at now
        · rw [List.mem_singleton.mp now]
          rfl
        · cases now
      · exact (induction later).trans (calculator.sameButDisplay_typed character).2

theorem limit_of_mem_evaluations {command : Command} {evaluation : Evaluation}
    (member : evaluation ∈ calculator.evaluations command) :
    evaluation.limit = calculator.limit := by
  cases command with
  | keys text => exact limit_of_mem_typedEvaluations member
  | equals =>
      rw [List.mem_singleton.mp member]
      rfl
  | clear | backspace | toggleScientific | apply | showDisplay | help | quit => cases member

theorem limit_of_mem_sessionEvaluations {lines : List (Option (List Char))}
    {evaluation : Evaluation} (member : evaluation ∈ calculator.sessionEvaluations lines) :
    evaluation.limit = calculator.limit := by
  induction lines generalizing calculator with
  | nil => cases member
  | cons line lines induction =>
      cases line with
      | none => cases member
      | some text =>
          rcases List.mem_append.mp member with now | later
          · exact limit_of_mem_evaluations now
          · split at later
            · cases later
            · exact (induction later).trans (calculator.faithful_execute (.ofLine text)).limit

end Calculator

end DeskCalculator
