import DeskCalculator.Proofs.Number.Display
import DeskCalculator.Proofs.Program.Streams
import DeskCalculator.Proofs.Session.Ending

/-! A run succeeds if and only if it does what the command line asks for. A session does so if it
finishes; a single expression has to have a value. -/

namespace DeskCalculator

/-- The log file of the settings opens, if they name one. -/
def Settings.LogOpens {system : FileSystem} (settings : Settings) (state : system.State) : Prop :=
  ∀ path, settings.logFile = some path → ∃ opened, system.openLog state path = .ok opened

/-- What is asked for with settings is done. -/
def Settings.Accomplishes (settings : Settings) (expression : Option String)
    (input : List UInt8) : Prop :=
  match expression with
  | some expression => ∃ value, Expression.evaluate settings.limit expression.toList = .ok value
  | none => EndsInText (inputLines input)

/-- The command line is understood, and it asks for help or for something that is done. -/
def Accomplished {system : FileSystem} (arguments : List String) (input : List UInt8)
    (state : system.State) : Prop :=
  ∃ asked, Arguments.ofList arguments = .ok asked ∧ (asked.help = true ∨
    ∃ settings, asked.settingsIn state = .ok settings ∧ settings.LogOpens state ∧
      settings.Accomplishes asked.expression input)

variable {system : FileSystem} {arguments : List String} {state : system.State}
  {asked : Arguments} {settings : Settings} {input : List UInt8}

/-! ## Success -/

theorem succeeded_answerOnce (limit : Nat) (expression : List Char) :
    (answerOnce limit expression).succeeded = true ↔
      ∃ value, Expression.evaluate limit expression = .ok value := by
  cases evaluated : Expression.evaluate limit expression <;> simp [answerOnce, evaluated]

theorem Settings.succeeded_transcript (wording : Wording) (settings : Settings)
    (expression : Option String) (input : List UInt8) :
    (settings.transcript wording (expression.map String.toList) input).succeeded = true ↔
      settings.Accomplishes expression input := by
  cases expression with
  | some expression => exact succeeded_answerOnce settings.limit expression.toList
  | none => exact (Course.succeeded_transcript wording _).trans (ending_session _ _)

theorem Settles.accomplished_iff (settles : Settles arguments state asked settings) :
    Accomplished arguments input state ↔
      settings.LogOpens state ∧ settings.Accomplishes asked.expression input := by
  constructor
  · rintro ⟨_, read, done⟩
    cases settles.read.symm.trans read
    rcases done with help | ⟨_, settled, opens, done⟩
    · cases settles.noHelp.symm.trans help
    · cases settles.settled.symm.trans settled
      exact ⟨opens, done⟩
  · rintro ⟨opens, done⟩
    exact ⟨asked, settles.read, .inr ⟨settings, settles.settled, opens, done⟩⟩

theorem Starts.succeeded_iff (wording : Wording) {start : Start} {after : system.State}
    (starts : Starts arguments state start after) :
    (start.transcript wording input).succeeded = true ↔ Accomplished arguments input state := by
  cases starts with
  | misused misread =>
      refine iff_of_false nofun ?_
      rintro ⟨_, read, -⟩
      cases misread.symm.trans read
  | usage read help => exact iff_of_true rfl ⟨_, read, .inl help⟩
  | unsettled read noHelp unsettled =>
      refine iff_of_false nofun ?_
      rintro ⟨_, again, help | ⟨_, settled, -⟩⟩
      · cases read.symm.trans again
        cases noHelp.symm.trans help
      · cases read.symm.trans again
        cases unsettled.symm.trans settled
  | unopened settles logged refused =>
      refine iff_of_false nofun fun accomplished => ?_
      rcases (settles.accomplished_iff.mp accomplished).1 _ logged with ⟨_, opened⟩
      cases refused.symm.trans opened
  | unlogged settles unlogged =>
      rw [settles.accomplished_iff]
      refine (Settings.succeeded_transcript wording _ _ input).trans (iff_and_self.mpr fun _ => ?_)
      intro path logged
      cases unlogged.symm.trans logged
  | logged settles logged opened =>
      rw [settles.accomplished_iff]
      refine (Settings.succeeded_transcript wording _ _ input).trans (iff_and_self.mpr fun _ => ?_)
      intro path loggedAgain
      cases logged.symm.trans loggedAgain
      exact ⟨_, opened⟩

theorem run_succeeded_iff (wording : Wording) (backend : Log.Backend) (arguments : List String)
    (input : List UInt8) (state : system.State) :
    (run wording backend arguments input state).succeeded = true ↔
      Accomplished arguments input state := by
  rw [run_succeeded]
  exact (starts_settle arguments state).succeeded_iff wording

/-- Typed lines may come in front of any line of the input. -/
theorem accomplished_insert {typed : List UInt8} (continues : Continues typed)
    {front : List UInt8} (whole : front = [] ∨ front.getLast? = some Text.lineFeed)
    (rest : List UInt8) :
    Accomplished arguments (front ++ (typed ++ rest)) state ↔
      Accomplished arguments (front ++ rest) state := by
  have inserted : inputLines (front ++ (typed ++ rest)) =
      inputLines front ++ (inputLines typed ++ inputLines rest) := by
    rw [inputLines_append whole, inputLines_append (.inr continues.ends)]
  have same (settings : Settings) (expression : Option String) :
      settings.Accomplishes expression (front ++ (typed ++ rest)) ↔
        settings.Accomplishes expression (front ++ rest) := by
    cases expression with
    | some expression => exact Iff.rfl
    | none =>
        unfold Settings.Accomplishes
        dsimp only
        rw [inserted, inputLines_append whole]
        exact endsInText_insert continues.goOn _ _
  simp only [Accomplished, same]

/-! ## What is printed -/

theorem Settles.startIn_eq (settles : Settles arguments state asked settings)
    (opens : settings.LogOpens state) :
    startIn arguments state = .ready settings (asked.expression.map String.toList) := by
  simp only [startIn, Start.ofArguments, settles.read, settles.noHelp, Bool.false_eq_true,
    if_false, Inquiry.settle_andThen, asked.settle_settings, settles.settled, Settings.openLog]
  cases logged : settings.logFile with
  | none => rfl
  | some path =>
      rcases opens path logged with ⟨name, opened⟩
      simp only [Inquiry.settle, opened]

theorem output_answerOnce (limit : Nat) (expression : List Char) :
    endedLines (textsFor .output (answerOnce limit expression).events) =
      match Expression.evaluate limit expression with
      | .ok value => String.ofList (Number.displayText value) ++ "\n"
      | .error _ => String.ofList errorDisplay ++ "\n" := by
  cases evaluated : Expression.evaluate limit expression with
  | ok value =>
      simp only [answerOnce, evaluated]
      exact endedLines_singleton _
  | error misreading =>
      simp only [answerOnce, evaluated]
      exact endedLines_singleton _

/-- Breaking off prints nothing more. -/
theorem Course.textsFor_output_transcript (wording : Wording) (course : Course) :
    textsFor .output (course.transcript wording).events = textsFor .output course.events := by
  cases ending : course.ending with
  | finished => simp only [transcript, ending, Ending.failure?]
  | undecodable =>
      simp only [transcript, ending, Ending.failure?, textsFor_append]
      exact List.append_nil _

theorem Course.output_eq_endedLines (backend : Log.Backend) (number : Nat) (course : Course) :
    course.output backend number = endedLines (textsFor .output course.events) := by
  rw [output, channelText, linesOn_of_ne_log backend number (by decide)]

theorem output_session (wording : Wording) (backend : Log.Backend)
    (settles : Settles arguments state asked settings)
    (opens : settings.LogOpens state) (session : asked.expression = none)
    {texts : List (List Char)} {rest : List (Option (List Char))}
    (executes : Executes (inputLines input) texts rest) :
    (run wording backend arguments input state).output =
      settings.calculator.printedReplies texts := by
  have held := (settings.calculator.session_of_executes backend 1 executes).1
  rw [Course.output_eq_endedLines, ← Course.textsFor_output_transcript wording] at held
  rw [run_output, transcriptIn, settles.startIn_eq opens, session, Option.map_none,
    Start.transcript, ← held]
  rfl

theorem output_once (wording : Wording) (backend : Log.Backend) (input : List UInt8)
    (settles : Settles arguments state asked settings)
    (opens : settings.LogOpens state) {expression : String}
    (once : asked.expression = some expression) :
    (run wording backend arguments input state).output =
      match Expression.evaluate settings.limit expression.toList with
      | .ok value => String.ofList (Number.displayText value) ++ "\n"
      | .error _ => String.ofList errorDisplay ++ "\n" := by
  rw [run_output, transcriptIn, settles.startIn_eq opens, once, Option.map_some,
    ← output_answerOnce]
  rfl

theorem displayText_ne_errorDisplay (value : Float) :
    Number.displayText value ≠ errorDisplay := by
  intro equal
  have stops := Number.notAhead_displayText value
  rw [equal] at stops
  exact absurd stops (by decide)

theorem transcriptIn_of_once (wording : Wording)
    (read : Arguments.ofList arguments = .ok asked)
    {expression : String} (once : asked.expression = some expression) (other : List UInt8) :
    transcriptIn wording arguments other state = transcriptIn wording arguments input state := by
  have starts := starts_settle arguments state
  unfold transcriptIn
  generalize startIn arguments state = start at starts ⊢
  generalize ((Start.ofArguments arguments).settle state).2 = after at starts
  cases starts with
  | misused | usage | unsettled | unopened => rfl
  | unlogged settles | logged settles =>
      cases settles.read.symm.trans read
      rw [once]
      rfl

/-! ## The whole account -/

/-- The status of a run says whether the run has done what it was asked for, and nothing that
is typed in a session changes it or keeps a later line from its reply. -/
structure TellsTruth {system : FileSystem} (wording : Wording) (backend : Log.Backend)
    (arguments : List String) (input : List UInt8) (state : system.State) : Prop where
  succeeded_iff : (run wording backend arguments input state).succeeded = true ↔
    Accomplished arguments input state
  typing : ∀ {front typed rest : List UInt8}, input = front ++ rest →
    (front = [] ∨ front.getLast? = some Text.lineFeed) → Continues typed →
    (run wording backend arguments (front ++ (typed ++ rest)) state).succeeded =
      (run wording backend arguments input state).succeeded
  session : ∀ {asked settings}, Settles arguments state asked settings →
    settings.LogOpens state → asked.expression = none →
    ∃ texts rest, Executes (inputLines input) texts rest ∧
      (run wording backend arguments input state).output =
        settings.calculator.printedReplies texts
  help : ∀ {asked}, Arguments.ofList arguments = .ok asked → asked.help = true →
    Start.ofArguments arguments = .settled .usage ∧
      run wording backend arguments input state = ⟨true, usageText ++ "\n", "", state⟩
  once_input : ∀ {asked expression}, Arguments.ofList arguments = .ok asked →
    asked.expression = some expression → ∀ other,
    run wording backend arguments other state = run wording backend arguments input state
  once_output : ∀ {asked settings expression}, Settles arguments state asked settings →
    settings.LogOpens state → asked.expression = some expression →
    match Expression.evaluate settings.limit expression.toList with
    | .ok value =>
        (run wording backend arguments input state).output =
            String.ofList (Number.displayText value) ++ "\n" ∧
          Number.displayText value ≠ errorDisplay
    | .error _ =>
        (run wording backend arguments input state).output =
          String.ofList errorDisplay ++ "\n"

theorem run_of_help (wording : Wording) (backend : Log.Backend)
    (read : Arguments.ofList arguments = .ok asked) (help : asked.help = true) :
    Start.ofArguments arguments = .settled .usage ∧
      run wording backend arguments input state = ⟨true, usageText ++ "\n", "", state⟩ := by
  have start : Start.ofArguments arguments = .settled .usage := by
    simp only [Start.ofArguments, read, help, if_true]
  have output : channelText [.output] [⟨.output, usageText⟩] = usageText ++ "\n" :=
    endedLines_singleton usageText
  have errors : channelText [.log, .errors] [⟨.output, usageText⟩] = "" := by decide +kernel
  refine ⟨start, ?_⟩
  unfold run
  rw [start, ← output, ← errors]
  rfl

theorem run_tellsTruth (wording : Wording) (backend : Log.Backend) (arguments : List String)
    (input : List UInt8) (state : system.State) :
    TellsTruth wording backend arguments input state where
  succeeded_iff := run_succeeded_iff wording backend arguments input state
  typing := by
    rintro front typed rest rfl whole continues
    rw [Bool.eq_iff_iff, run_succeeded_iff, run_succeeded_iff]
    exact accomplished_insert continues whole rest
  session := by
    intro asked settings settles opens noExpression
    rcases exists_executes (inputLines input) with ⟨texts, rest, executes⟩
    exact ⟨texts, rest, executes,
      output_session wording backend settles opens noExpression executes⟩
  help := run_of_help wording backend
  once_input read once other := run_congr (transcriptIn_of_once wording read once other) backend
  once_output := by
    intro asked settings expression settles opens once
    have printed := output_once wording backend input settles opens once
    cases evaluated : Expression.evaluate settings.limit expression.toList with
    | ok value =>
        rw [evaluated] at printed
        exact ⟨printed, displayText_ne_errorDisplay value⟩
    | error misreading =>
        rw [evaluated] at printed
        exact printed

/-- One of the lines is nested deeper than a file in another directory allows, and the next has
it evaluated. -/
theorem run_tellsTruth_behind_deep_line :
    let arguments := ["-c", "/conf/c"]
    let settings := fileBytes "\x7b\"max_depth\": 1\x7d"
    let state : Files.system.State := Files.mk [] [(["conf".toList], .directory),
      ([['c'], "conf".toList], .file ⟨settings, true, false⟩)]
    let typed := fileBytes "C\n((2*\n=\n"
    let rest := fileBytes "C\n3=\nexit\n"
    let outcome :=
      run (fun _ _ => "") .default arguments (fileBytes "1+1=\n" ++ (typed ++ rest)) state
    Continues typed ∧ outcome.succeeded = true ∧
      outcome.output = "2.0\n\n((2*\nError\n\n3.0\n" := by
  intro arguments settings state typed rest outcome
  have lines : inputLines typed = [some ['C'], some "((2*".toList, some ['=']] := by
    decide +kernel
  have goOn : ∀ text ∈ [['C'], "((2*".toList, ['=']], Command.ofLine text ≠ .quit := by decide
  have continues : Continues typed := by
    refine ⟨by decide +kernel, ?_⟩
    rw [lines]
    simpa using goOn
  have account :=
    run_tellsTruth (fun _ _ => "") .default arguments (fileBytes "1+1=\n" ++ rest) state
  refine ⟨continues, (account.typing rfl (.inr (by decide +kernel)) continues).trans ?_, ?_⟩
  · decide +kernel
  · decide +kernel

end DeskCalculator
