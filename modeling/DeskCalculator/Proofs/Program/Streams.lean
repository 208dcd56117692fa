import DeskCalculator.Proofs.Program.Files
import DeskCalculator.Proofs.Program.Start
import DeskCalculator.Proofs.Session.Channels
import DeskCalculator.Program.Run

/-! What a run does is settled before the backend of the log is asked, and the backend is asked
for nothing but the lines. The lines of the log go to the end of a file if the settings name
one that can be opened, and else among the errors. -/

namespace DeskCalculator

variable {system : FileSystem}

/-- What a run does, whatever the backend of the log. -/
def transcriptIn (wording : Wording) (arguments : List String) (input : List UInt8)
    (state : system.State) : Transcript :=
  (startIn arguments state).transcript wording input

/-- The lines that a run writes. -/
def runLines (wording : Wording) (backend : Log.Backend) (arguments : List String)
    (input : List UInt8) (state : system.State) : List WrittenLine :=
  writtenLines backend 1 (transcriptIn wording arguments input state).events

variable {arguments : List String} {state after : system.State}
  {path : List Char} {start : Start}

/-- The settings name a log file, which opens. -/
structure LogsTo (arguments : List String) (state : system.State) (path : List Char)
    (opened : system.State) : Prop where
  configured : ∃ asked settings, Settles arguments state asked settings ∧
    settings.logFile = some path
  opened : system.openLog state path = .ok opened

/-- The lines are all in the outcome of a run. -/
structure Carries (arguments : List String) (state : system.State) (lines : List WrittenLine)
    (outcome : Outcome system.State) : Prop where
  output_eq : outcome.output = channelText [.output] lines
  unlogged : (∀ path opened, ¬LogsTo arguments state path opened) →
    outcome.errors = channelText [.log, .errors] lines ∧ outcome.files = state
  logged : ∀ {path opened}, LogsTo arguments state path opened →
    outcome.errors = channelText [.errors] lines ∧
      outcome.files = system.writeLines path opened (linesOn [.log] lines)

theorem LogsTo.unique {otherPath : List Char} {otherAfter : system.State}
    (logs : LogsTo arguments state path after)
    (again : LogsTo arguments state otherPath otherAfter) :
    otherPath = path ∧ otherAfter = after := by
  rcases logs with ⟨⟨_, _, settles, logged⟩, opened⟩
  rcases again with ⟨⟨_, _, settlesAgain, loggedAgain⟩, openedAgain⟩
  rcases settles.unique settlesAgain with ⟨rfl, rfl⟩
  cases logged.symm.trans loggedAgain
  cases opened.symm.trans openedAgain
  exact ⟨rfl, rfl⟩

theorem not_logsTo_of_not_settles
    (unsettled : ∀ asked settings, ¬Settles arguments state asked settings)
    (path : List Char) (opened : system.State) : ¬LogsTo arguments state path opened := by
  intro logs
  rcases logs.configured with ⟨asked, settings, settles, -⟩
  exact unsettled asked settings settles

/-- What the start means for the log. -/
inductive Start.Logging (arguments : List String) (state : system.State) (start : Start)
    (after : system.State) : Prop
  | unlogged (nowhere : ∀ path opened, ¬LogsTo arguments state path opened)
      (noFile : start.logFile = none) (unchanged : after = state)
  | logged {path : List Char} (logs : LogsTo arguments state path after)
      (file : start.logFile = some path)

theorem Starts.logging (starts : Starts arguments state start after) :
    start.Logging arguments state after := by
  cases starts with
  | misused misread =>
      refine .unlogged (not_logsTo_of_not_settles fun _ _ => ?_) rfl rfl
      exact not_settles_of_misused misread
  | usage read help =>
      refine .unlogged (not_logsTo_of_not_settles fun _ _ => ?_) rfl rfl
      exact not_settles_of_help read help
  | unsettled read _ unsettled =>
      refine .unlogged (not_logsTo_of_not_settles fun _ _ => ?_) rfl rfl
      exact not_settles_of_unsettled read unsettled
  | unopened settles logged refused =>
      refine .unlogged (fun path after logs => ?_) rfl rfl
      rcases logs with ⟨⟨_, _, again, loggedAgain⟩, opened⟩
      rcases settles.unique again with ⟨rfl, rfl⟩
      cases logged.symm.trans loggedAgain
      cases refused.symm.trans opened
  | unlogged settles unlogged =>
      refine .unlogged (fun path after logs => ?_) unlogged rfl
      rcases logs.configured with ⟨_, _, again, logged⟩
      rcases settles.unique again with ⟨rfl, rfl⟩
      cases unlogged.symm.trans logged
  | logged settles logged opened => exact .logged ⟨⟨_, _, settles, logged⟩, opened⟩ logged

/-! ## Whole runs -/

section

variable (wording : Wording) (backend : Log.Backend) (arguments : List String)
  (input : List UInt8) (state : system.State)

theorem run_succeeded :
    (run wording backend arguments input state).succeeded =
      (transcriptIn wording arguments input state).succeeded := by
  unfold run
  dsimp only
  split <;> rfl

theorem carries_run :
    Carries arguments state (runLines wording backend arguments input state)
      (run wording backend arguments input state) := by
  have logging := (starts_settle arguments state).logging
  unfold run
  dsimp only
  rw [show ((Start.ofArguments arguments).settle state).1 = startIn arguments state from rfl]
  generalize ((Start.ofArguments arguments).settle state).2 = after at logging ⊢
  cases logging with
  | unlogged nowhere noFile unchanged =>
      rw [noFile, unchanged]
      exact ⟨rfl, fun _ => ⟨rfl, rfl⟩, fun logs => absurd logs (nowhere _ _)⟩
  | logged logs file =>
      rw [file]
      refine ⟨rfl, fun nowhere => absurd logs (nowhere _ _), fun again => ?_⟩
      rcases logs.unique again with ⟨rfl, rfl⟩
      exact ⟨rfl, rfl⟩

theorem run_output :
    (run wording backend arguments input state).output =
      endedLines (textsFor .output (transcriptIn wording arguments input state).events) := by
  rw [(carries_run wording backend arguments input state).output_eq, channelText, runLines,
    linesOn_of_ne_log backend 1 (by decide)]

end

/-- Nothing but its transcript has a run depend on its input. -/
theorem run_congr {wording : Wording} {input other : List UInt8}
    (same : transcriptIn wording arguments other state =
      transcriptIn wording arguments input state) (backend : Log.Backend) :
    run wording backend arguments other state = run wording backend arguments input state := by
  unfold transcriptIn startIn at same
  simp only [run, same]

/-- The records, the output, the complaints and the success of a run are those of its
transcript, in which the backend has no part. A log file has its old content in front. -/
theorem log_observes (wording : Wording) (backend : Log.Backend) (arguments : List String)
    (input : List UInt8) (state : system.State) :
    let transcript := transcriptIn wording arguments input state
    let logged := backend.numbered 1 ((recordsOf transcript.events).filter backend.passes)
    let complaints := textsFor .errors transcript.events
    let lines := runLines wording backend arguments input state
    let outcome := run wording backend arguments input state
    (outcome.succeeded = transcript.succeeded ∧
        outcome.output = endedLines (textsFor .output transcript.events)) ∧
      (linesOn [.log] lines = logged ∧ linesOn [.errors] lines = complaints) ∧
      ((∀ path opened, ¬LogsTo arguments state path opened) →
        outcome.errors = endedLines (linesOn [.log, .errors] lines) ∧ outcome.files = state) ∧
      ∀ path opened, LogsTo arguments state path opened →
        outcome.errors = endedLines complaints ∧
          outcome.files = system.writeLines path opened logged ∧
          ∀ file : system.RegularFile path,
            file.content outcome.files = file.content state ++ fileBytes (endedLines logged) := by
  intro transcript logged complaints lines outcome
  have carried := carries_run wording backend arguments input state
  have logLines : linesOn [.log] lines = logged := linesOn_log backend 1 transcript.events
  have errorLines : linesOn [.errors] lines = complaints :=
    linesOn_of_ne_log backend 1 (by decide) transcript.events
  refine ⟨⟨run_succeeded wording backend arguments input state,
    run_output wording backend arguments input state⟩, ⟨logLines, errorLines⟩,
    carried.unlogged, ?_⟩
  intro path opened logs
  rcases carried.logged logs with ⟨errors, written⟩
  rw [logLines] at written
  rw [channelText, errorLines] at errors
  refine ⟨errors, written, fun file => ?_⟩
  rw [written, file.content_logged logs.opened]

theorem log_observes_behind_old_line :
    let settings := "\x7b\"log_file\": \"./l\"\x7d"
    let state : Files.system.State :=
      Files.here [(['l'], fileBytes "0\n"), (['c'], fileBytes settings)]
    let outcome := run (fun _ _ => "") .default ["-c", "c"] (fileBytes "1+\n=\n") state
    (∃ opened, LogsTo ["-c", "c"] state "./l".toList opened) ∧ outcome.errors = "" ∧
      Files.contentAt "./l".toList outcome.files = fileBytes
        "0\n1|W|EVAL|\"1+\" failed: Unexpected end of input at position 2\n" := by
  intro settings state outcome
  have logs : LogsTo ["-c", "c"] state "./l".toList
      (Files.append state [['l'], "here".toList] []) :=
    ⟨⟨⟨some "c", none, none, false⟩, ⟨1000, false, some "./l".toList⟩,
      ⟨by decide +kernel, by decide +kernel, by decide +kernel⟩, by decide +kernel⟩, rfl⟩
  have account := log_observes (fun _ _ => "") .default ["-c", "c"] (fileBytes "1+\n=\n") state
  rcases account.2.2.2 _ _ logs with ⟨errors, -, content⟩
  refine ⟨⟨_, logs⟩, errors.trans ?_, (content (Files.regularFile "./l".toList)).trans ?_⟩
  · decide +kernel
  · decide +kernel

end DeskCalculator
