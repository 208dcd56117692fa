import DeskCalculator.Proofs.Log.Line
import DeskCalculator.Proofs.Program.Streams
import DeskCalculator.Proofs.Session.Records

/-! What a run records is one line for each entry, and the line comes apart into the parts of its
entry, whatever the program is given to read. -/

namespace DeskCalculator

open Text

/-! ## Records -/

theorem oneLine_startEvents (settings : Settings) :
    Log.AllOneLine (recordsOf settings.startEvents) := by
  refine (Log.allOneLine_cons _ _).mpr ⟨by decide +kernel, Log.allOneLine_singleton ?_⟩
  simp only [String.toList_append, oneLine_append]
  refine ⟨⟨⟨by decide +kernel, oneLine_repr settings.limit⟩, by decide +kernel⟩, ?_⟩
  cases settings.scientific <;> decide +kernel

theorem oneLine_answerOnce (limit : Nat) (expression : List Char) :
    Log.AllOneLine (recordsOf (answerOnce limit expression).events) := by
  have shown := oneLine_quoted expression
  have enter : OneLine s!"ENTER evaluate_expression expr={quoted expression}".toList := by
    simp only [String.toList_append, oneLine_append]
    exact ⟨by decide +kernel, shown⟩
  cases evaluated : Expression.evaluate limit expression with
  | ok value =>
      simp only [answerOnce, evaluated]
      refine (Log.allOneLine_cons _ _).mpr ⟨enter, Log.allOneLine_singleton ?_⟩
      simp only [String.toList_append, oneLine_append]
      exact ⟨by decide +kernel, by simpa [toString] using Number.oneLine_displayText value⟩
  | error misreading =>
      simp only [answerOnce, evaluated]
      refine (Log.allOneLine_cons _ _).mpr ⟨enter, Log.allOneLine_singleton ?_⟩
      simp only [String.toList_append, oneLine_append]
      exact ⟨⟨shown, by decide +kernel⟩, Expression.oneLine_message_of_evaluate evaluated⟩

theorem Course.oneLine_transcript (wording : Wording) {course : Course}
    (oneLine : Log.AllOneLine (recordsOf course.events)) :
    Log.AllOneLine (recordsOf (course.transcript wording).events) := by
  have broken : OneLine s!"IO error: {FileFault.undecodable.message}".toList := by
    decide +kernel
  cases ending : course.ending with
  | finished =>
      simp only [transcript, ending, Ending.failure?]
      exact oneLine
  | undecodable =>
      simp only [transcript, ending, Ending.failure?, recordsOf_append, Log.allOneLine_append]
      exact ⟨oneLine, Log.allOneLine_singleton broken⟩

theorem Settings.showsOutcome_calculator (settings : Settings) :
    settings.calculator.ShowsOutcome :=
  ⟨_, .inl rfl, .nil _⟩

theorem Start.oneLine_transcript (wording : Wording) (start : Start) (input : List UInt8) :
    Log.AllOneLine (recordsOf (start.transcript wording input).events) := by
  cases start with
  | usage | failed => exact Log.allOneLine_nil
  | ready settings expression =>
      simp only [transcript, Settings.transcript, recordsOf_append, Log.allOneLine_append]
      cases expression with
      | some expression =>
          exact ⟨oneLine_startEvents settings, oneLine_answerOnce _ _⟩
      | none =>
          refine ⟨oneLine_startEvents settings, Course.oneLine_transcript wording ?_⟩
          exact settings.showsOutcome_calculator.allOneLine_session _

/-! ## Complaints

In a run that has begun, the other lines among the errors are no records: each of them is one
line and begins with a letter. -/

/-- The texts are one line each, and none begins with a number. -/
def AllWorded (texts : List String) : Prop :=
  ∀ text ∈ texts, OneLine text.toList ∧ Worded text.toList

theorem allWorded_answerOnce (limit : Nat) (expression : List Char) :
    AllWorded (textsFor .errors (answerOnce limit expression).events) := by
  cases evaluated : Expression.evaluate limit expression with
  | ok value =>
      simp only [answerOnce, evaluated]
      exact fun text member => absurd member List.not_mem_nil
  | error misreading =>
      simp only [answerOnce, evaluated]
      intro text member
      cases List.mem_singleton.mp member
      exact ⟨Expression.oneLine_message_of_evaluate evaluated, misreading.worded_message⟩

theorem Course.allWorded_transcript (wording : Wording) {course : Course}
    (nothing : textsFor .errors course.events = []) :
    AllWorded (textsFor .errors (course.transcript wording).events) := by
  let message := s!"IO error: {FileFault.undecodable.message}"
  have broken : OneLine ("smartcalc: " ++ message).toList ∧
      Worded ("smartcalc: " ++ message).toList :=
    ⟨by decide +kernel, by decide +kernel⟩
  intro text member
  cases ending : course.ending with
  | finished =>
      simp only [transcript, ending, Ending.failure?, nothing] at member
      cases member
  | undecodable =>
      simp only [transcript, ending, Ending.failure?, textsFor_append, nothing] at member
      cases List.mem_singleton.mp member
      exact broken

theorem Settings.allWorded_transcript (wording : Wording) (settings : Settings)
    (expression : Option (List Char)) (input : List UInt8) :
    AllWorded (textsFor .errors (settings.transcript wording expression input).events) := by
  have quiet : textsFor .errors settings.startEvents = [] := rfl
  simp only [transcript, textsFor_append, quiet, List.nil_append]
  cases expression with
  | some expression => exact allWorded_answerOnce _ _
  | none => exact Course.allWorded_transcript wording (Calculator.textsFor_errors_session _ _)

/-! ## Whole runs -/

/-- The lines of the log are records of the run, each with its number in front, and they come
apart into the parts that went into them; so does a record before its line is shown. Where the
log stands among the errors of a run, it is told apart from the other lines there. -/
structure Unforged (backend : Log.Backend) (records : List Log.Entry)
    (lines : List WrittenLine) : Prop where
  records_oneLine : Log.AllOneLine records
  each : ∀ line ∈ linesOn [.log] lines, ∃ number, ∃ record ∈ records,
    line = backend.line number record ∧
      Log.HasParts
        (Log.line number record.severity record.category.tag record.message).toList
        (digitsOfNatural number) record.severity.letter record.category.tag.toList
        record.message.toList ∧
      Log.HasParts line.toList (digitsOfNatural number) record.severity.letter
        record.category.tag.toList (backend.shown record.message.toList)
  log_lines : (channelText [.log] lines).toList.splitOn '\n' =
    (linesOn [.log] lines).map String.toList ++ [[]]
  errors_lines : records ≠ [] → AllWorded (linesOn [.errors] lines) ∧
    (channelText [.log, .errors] lines).toList.splitOn '\n' =
      (linesOn [.log, .errors] lines).map String.toList ++ [[]]

theorem unforged_writtenLines {backend : Log.Backend} (leavesOut : backend.LeavesOut)
    (number : Nat) {events : List Event} (recorded : Log.AllOneLine (recordsOf events))
    (worded : recordsOf events ≠ [] → AllWorded (textsFor .errors events)) :
    Unforged backend (recordsOf events) (writtenLines backend number events) := by
  have logged : ∀ line ∈ linesOn [.log] (writtenLines backend number events),
      ∃ later, ∃ record ∈ recordsOf events, line = backend.line later record ∧
        OneLine record.message.toList := by
    intro line member
    rw [linesOn_log] at member
    rcases Log.Backend.mem_numbered member with ⟨record, passed, later, equal⟩
    have within := (List.mem_filter.mp passed).1
    exact ⟨later, record, within, equal, recorded record within⟩
  have oneLine : ∀ line ∈ linesOn [.log] (writtenLines backend number events),
      OneLine line.toList := by
    intro line member
    rcases logged line member with ⟨later, record, -, rfl, feedless⟩
    rw [leavesOut.toList_line]
    exact (Log.hasParts_of_oneLine later record.severity record.category
      (leavesOut.oneLine feedless)).oneLine
  refine ⟨recorded, fun line member => ?_, ?_, fun some => ⟨?_, ?_⟩⟩
  · rcases logged line member with ⟨later, record, within, rfl, feedless⟩
    refine ⟨later, record, within, rfl, ?_, ?_⟩
    · rw [Log.toList_line]
      exact Log.hasParts_of_oneLine later record.severity record.category feedless
    · rw [leavesOut.toList_line]
      exact Log.hasParts_of_oneLine later record.severity record.category
        (leavesOut.oneLine feedless)
  · rw [channelText, splitOn_endedLines oneLine]
  · rw [linesOn_of_ne_log backend number (by decide)]
    exact worded some
  · rw [channelText, splitOn_endedLines]
    intro text member
    rcases mem_linesOn_cons member with log | errors
    · exact oneLine text log
    · rw [linesOn_of_ne_log backend number (by decide)] at errors
      exact (worded some text errors).1

theorem records_unforged {system : FileSystem} {backend : Log.Backend}
    (leavesOut : backend.LeavesOut) (wording : Wording) (arguments : List String)
    (input : List UInt8) (state : system.State) :
    let lines := runLines wording backend arguments input state
    Carries arguments state lines (run wording backend arguments input state) ∧
      Unforged backend (recordsOf (transcriptIn wording arguments input state).events)
        lines := by
  refine ⟨carries_run wording backend arguments input state, ?_⟩
  refine unforged_writtenLines leavesOut 1 (Start.oneLine_transcript _ _ input) fun some => ?_
  unfold transcriptIn at some ⊢
  cases start : startIn arguments state with
  | ready settings expression => exact settings.allWorded_transcript wording expression input
  | usage | failed =>
      rw [start] at some
      exact absurd rfl some

/-- The expression has a line feed in it, and what stands behind looks like a record. -/
theorem records_unforged_around_foreign_line :
    let arguments := ["-e", "1\n|E|SYS|x"]
    let state : Files.system.State := Files.here []
    let wording : Wording := fun _ _ => ""
    let lines := runLines wording .default arguments [] state
    Log.Backend.default.LeavesOut ∧
      recordsOf (transcriptIn wording arguments [] state).events ≠ [] ∧
      (channelText [.log, .errors] lines).toList.splitOn '\n' =
        ["1|W|EVAL|\"1\\n|E|SYS|x\" failed: Unexpected trailing character '|' at position 2",
          "Unexpected trailing character '|' at position 2", ""].map String.toList := by
  intro arguments state wording lines
  have leavesOut : Log.Backend.default.LeavesOut := Log.Backend.leavesOut_of_plain rfl
  have recorded : recordsOf (transcriptIn wording arguments [] state).events ≠ [] := by
    decide +kernel
  have account := (records_unforged leavesOut wording arguments [] state).2
  refine ⟨leavesOut, recorded, (account.errors_lines recorded).2.trans ?_⟩
  decide +kernel

end DeskCalculator
