import DeskCalculator.Program.Start
import DeskCalculator.Session.Course

/-! A run evaluates the expression of the command line, or else holds a session with its input.
Its transcript does not depend on the backend of the log. -/

namespace DeskCalculator

structure Transcript where
  events : List Event
  succeeded : Bool
deriving DecidableEq, Repr

/-! ## One expression -/

/-- Evaluates an expression that is not typed on a calculator. -/
def answerOnce (limit : Nat) (expression : List Char) : Transcript :=
  let shown := Text.quoted expression
  let enter : Event :=
    .logged ⟨.debug, .command, s!"ENTER evaluate_expression expr={shown}"⟩
  match Expression.evaluate limit expression with
  | .ok value =>
      let text := String.ofList (Number.displayText value)
      ⟨[enter, .logged ⟨.debug, .command, s!"EXIT evaluate_expression {text}"⟩, .output text],
        true⟩
  | .error misreading =>
      ⟨[enter, .logged ⟨.warning, .evaluation, s!"{shown} failed: {misreading.message}"⟩,
          .output (String.ofList errorDisplay), .complaint misreading.message],
        false⟩

namespace Failure

def complaint (wording : Wording) (failure : Failure) : Event :=
  .complaint s!"smartcalc: {failure.message wording}"

/-- The log has a failure too, once it is open. -/
def events (wording : Wording) (failure : Failure) : List Event :=
  [.logged ⟨.error, .system, failure.message wording⟩, failure.complaint wording]

end Failure

/-! ## Sessions -/

def Ending.failure? : Ending → Option Failure
  | finished => none
  | undecodable => some (.input .undecodable)

def Course.transcript (wording : Wording) (course : Course) : Transcript :=
  match course.ending.failure? with
  | none => ⟨course.events, true⟩
  | some failure => ⟨course.events ++ failure.events wording, false⟩

/-! ## Whole runs -/

namespace Settings

def calculator (settings : Settings) : Calculator :=
  .start settings.limit settings.scientific

def startEvents (settings : Settings) : List Event :=
  [.logged ⟨.information, .system, "SmartCalc starting"⟩,
    .logged ⟨.information, .system,
      s!"Creating AppState max_depth={settings.limit} scientific={settings.scientific}"⟩]

end Settings

def Settings.transcript (wording : Wording) (settings : Settings)
    (expression : Option (List Char)) (input : List UInt8) : Transcript :=
  let main := match expression with
    | some expression => answerOnce settings.limit expression
    | none =>
        (settings.calculator.session ((Text.lines input).map Text.decode?)).transcript wording
  ⟨settings.startEvents ++ main.events, main.succeeded⟩

def Start.transcript (wording : Wording) (start : Start) (input : List UInt8) : Transcript :=
  match start with
  | usage => ⟨[.output usageText], true⟩
  | failed failure => ⟨[failure.complaint wording], false⟩
  | ready settings expression => settings.transcript wording expression input

def Start.logFile : Start → Option (List Char)
  | ready settings _ => settings.logFile
  | _ => none

/-- What is left of a run: its two streams of text, and the files. -/
structure Outcome (State : Type) where
  succeeded : Bool
  output : String
  errors : String
  files : State

/-- Runs the program where there are these files. Log lines go among the errors, or to the end
of the log file. -/
def run {system : FileSystem} (wording : Wording) (backend : Log.Backend)
    (arguments : List String) (input : List UInt8) (state : system.State) :
    Outcome system.State :=
  let (start, state) := (Start.ofArguments arguments).settle state
  let transcript := start.transcript wording input
  let lines := writtenLines backend 1 transcript.events
  let output := channelText [.output] lines
  match start.logFile with
  | none => ⟨transcript.succeeded, output, channelText [.log, .errors] lines, state⟩
  | some path =>
      ⟨transcript.succeeded, output, channelText [.errors] lines,
        system.writeLines path state (linesOn [.log] lines)⟩

end DeskCalculator
