import DeskCalculator.Program.Files
import DeskCalculator.Program.Run
import DeskCalculator.Proofs.Program.Arguments
import DeskCalculator.Proofs.Program.Settings
import DeskCalculator.Proofs.Session.Evaluations

/-! Whatever the command line and the files, a run has a limit in bounds and evaluates nothing
with another. The stack for such a limit is a number of 64 bits. -/

namespace DeskCalculator

/-! ## Stack -/

/-- Neither does the share of the levels stop growing, nor is the sum too large. -/
theorem stackBytes_of_le {limit : Nat} (bounded : limit ≤ 10000) :
    limit * 16384 < Text.wordBound ∧ stackBytes limit = 1048576 + 16384 * limit ∧
      stackBytes limit < Text.wordBound := by
  have share : limit * 16384 < Text.wordBound := by
    unfold Text.wordBound
    omega
  have growing : min (limit * 16384) (Text.wordBound - 1) = limit * 16384 :=
    Nat.min_eq_left (Nat.le_sub_one_of_lt share)
  have stack : stackBytes limit = 1048576 + 16384 * limit := by
    rw [stackBytes, growing, Nat.mul_comm]
  refine ⟨share, stack, ?_⟩
  rw [stack]
  unfold Text.wordBound
  omega

/-! ## Evaluations -/

/-- What an evaluation has for the display. -/
def Evaluation.shown (evaluation : Evaluation) : List Char :=
  match Expression.evaluate evaluation.limit evaluation.text with
  | .ok value => Number.displayText value
  | .error _ => errorDisplay

/-- Breaking off is recorded as no evaluation. -/
theorem Course.evaluationEntries_transcript (wording : Wording) (course : Course) :
    Log.evaluationEntries (recordsOf (course.transcript wording).events) =
      Log.evaluationEntries (recordsOf course.events) := by
  cases ending : course.ending with
  | finished => simp only [transcript, ending, Ending.failure?]
  | undecodable =>
      simp only [transcript, ending, Ending.failure?, recordsOf_append,
        Log.evaluationEntries_append]
      exact List.append_nil _

theorem textsFor_output_answerOnce (limit : Nat) (text : List Char) :
    textsFor .output (answerOnce limit text).events =
      [String.ofList (Evaluation.shown ⟨limit, text⟩)] := by
  cases evaluated : Expression.evaluate limit text <;>
    simp only [answerOnce, Evaluation.shown, evaluated] <;> rfl

namespace Settings

/-- The evaluations of a run with these settings. -/
def evaluations (settings : Settings) (expression : Option (List Char))
    (input : List UInt8) : List Evaluation :=
  match expression with
  | some text => [⟨settings.limit, text⟩]
  | none => settings.calculator.sessionEvaluations (inputLines input)

/-- All evaluations of a run have the limit of its settings. A session records them, and a run
without a session prints what it has evaluated. -/
structure EvaluatesWithin (wording : Wording) (settings : Settings)
    (expression : Option (List Char)) (input : List UInt8) : Prop where
  limit : ∀ evaluation ∈ settings.evaluations expression input,
    evaluation.limit = settings.limit
  recorded : expression = none →
    Log.evaluationEntries (recordsOf (settings.transcript wording expression input).events) =
      (settings.evaluations expression input).map Evaluation.entry
  printed : ∀ text, expression = some text →
    textsFor .output (settings.transcript wording expression input).events =
      (settings.evaluations expression input).map fun evaluation =>
        String.ofList evaluation.shown

theorem evaluatesWithin (wording : Wording) (settings : Settings)
    (expression : Option (List Char)) (input : List UInt8) :
    settings.EvaluatesWithin wording expression input where
  limit evaluation member := by
    cases expression with
    | some text => rw [List.mem_singleton.mp member]
    | none => exact Calculator.limit_of_mem_sessionEvaluations member
  recorded := by
    rintro rfl
    have start : Log.evaluationEntries (recordsOf settings.startEvents) = [] := rfl
    rw [transcript, recordsOf_append, Log.evaluationEntries_append, start, List.nil_append]
    exact (Course.evaluationEntries_transcript wording _).trans
      (Calculator.evaluationEntries_session _ _)
  printed := by
    rintro text rfl
    have start : textsFor .output settings.startEvents = [] := rfl
    rw [transcript, textsFor_append, start, List.nil_append]
    exact textsFor_output_answerOnce settings.limit text

end Settings

/-! ## The whole account -/

/-- Only a limit in bounds counts, wherever it comes from, and it counts for the whole run. -/
structure KeepsBounds {system : FileSystem} (arguments : List String)
    (state : system.State) : Prop where
  settled : ∀ {asked settings}, Arguments.ofList arguments = .ok asked →
    asked.settingsIn state = .ok settings →
    (1 ≤ settings.limit ∧ settings.limit ≤ 10000) ∧
      ∃ groups named, Spelled groups arguments ∧ asked.Names state named ∧
        settings.limit =
          (groups.filterMap Group.limit?).getLast?.getD (named.limit.getD 1000) ∧
        settings.scientific = named.scientific.getD false ∧
        settings.logFile = named.logFile.getD none
  unreadable : ∀ {asked path fault}, Arguments.ofList arguments = .ok asked →
    asked.settingsFile = some path → system.read state path.toList = .error fault →
    asked.settingsIn state = .error (.input fault)
  undecodable : ∀ {asked path content}, Arguments.ofList arguments = .ok asked →
    asked.settingsFile = some path → system.read state path.toList = .ok content →
    Text.decode? content = none → asked.settingsIn state = .error (.input .undecodable)
  malformed : ∀ {asked path content text fault}, Arguments.ofList arguments = .ok asked →
    asked.settingsFile = some path → system.read state path.toList = .ok content →
    Text.decode? content = some text → Settings.ofJson text = .error fault →
    asked.settingsIn state = .error (.settingsText path.toList text fault)
  outsideInFile : ∀ {asked named limit}, Arguments.ofList arguments = .ok asked →
    asked.Names state named → named.limit = some limit → ¬(1 ≤ limit ∧ limit ≤ 10000) →
    ∃ fault, asked.settingsIn state = .error (.limit fault)
  outsideAsked : ∀ {asked limit}, Arguments.ofList arguments = .ok asked →
    asked.limit = some limit → ¬(1 ≤ limit ∧ limit ≤ 10000) →
    ∃ failure, asked.settingsIn state = .error failure
  started : ∀ {settings expression}, startIn arguments state = .ready settings expression →
    (∃ asked, Settles arguments state asked settings) ∧
      settings.limit * 16384 < Text.wordBound ∧
      stackBytes settings.limit = 1048576 + 16384 * settings.limit ∧
      stackBytes settings.limit < Text.wordBound ∧
      ∀ wording input, settings.EvaluatesWithin wording expression input

theorem start_keepsBounds {system : FileSystem} (arguments : List String) (state : system.State) :
    KeepsBounds arguments state where
  settled := by
    intro asked settings read settled
    rcases Arguments.ofList_eq_ok_iff.mp read with ⟨groups, spelled, rfl⟩
    rcases Arguments.settingsIn_eq_ok_iff.mp settled with ⟨named, names, -, rfl, bounds⟩
    exact ⟨bounds, groups, named, spelled, names, rfl, rfl, rfl⟩
  unreadable _ given unreadable := Arguments.settingsIn_of_unreadable given unreadable
  undecodable _ given content undecodable :=
    Arguments.settingsIn_of_undecodable given content undecodable
  malformed _ given content decoded malformed :=
    Arguments.settingsIn_of_malformed given content decoded malformed
  outsideInFile := by
    intro asked named limit _ names stored outside
    apply Arguments.exists_fault_of_named_outside names
    rw [NamedSettings.settings, stored]
    exact outside
  outsideAsked _ given outside :=
    Arguments.exists_failure_of_asked_outside given outside state
  started := by
    intro settings expression ready
    rcases exists_settles_of_startIn ready with ⟨asked, settles⟩
    rcases Arguments.settingsIn_eq_ok_iff.mp settles.settled with ⟨-, -, -, -, -, bounded⟩
    rcases stackBytes_of_le bounded with ⟨share, stack, fits⟩
    exact ⟨⟨asked, settles⟩, share, stack, fits,
      fun wording => settings.evaluatesWithin wording expression⟩

/-- The command line has the last word, but not where the file is out of bounds. -/
theorem start_keepsBounds_of_both :
    let arguments := ["-c", "conf/s", "--max-depth", "9", "--max-depth", "1"]
    let sound := "\x7b\"scientific\": true, \"max_depth\": 10000\x7d"
    let excessive := "\x7b\"max_depth\": 10001\x7d"
    let state (text : String) : Files.system.State := Files.mk [] [(["conf".toList], .directory),
      ([['s'], "conf".toList], .file ⟨fileBytes text, true, true⟩)]
    let settings : Settings := ⟨1, true, none⟩
    let asked : Arguments := ⟨some "conf/s", some 1, none, false⟩
    startIn arguments (state sound) = .ready settings none ∧
      stackBytes 1 = 1048576 + 16384 * 1 ∧
      (∀ evaluation ∈ settings.evaluations none (fileBytes "((2))=\n1=\n"),
        evaluation.limit = 1) ∧
      Arguments.ofList arguments = .ok asked ∧
      ∃ fault, asked.settingsIn (state excessive) = .error (.limit fault) := by
  intro arguments sound excessive state settings asked
  have ready : startIn arguments (state sound) = .ready settings none := by decide +kernel
  rcases (start_keepsBounds arguments (state sound)).started ready with ⟨-, -, stack, -, within⟩
  have read : Arguments.ofList arguments = .ok asked := by decide +kernel
  have content : Files.system.read (state excessive) "conf/s".toList =
      .ok (fileBytes excessive) := by
    rfl
  have decoded : Text.decode? (fileBytes excessive) = some excessive.toList := by
    decide +kernel
  have parsed : NamedSettings.ofJson excessive.toList = .ok ⟨some 10001, none, none⟩ := by
    decide +kernel
  have names : asked.Names (state excessive) ⟨some 10001, none, none⟩ :=
    .file rfl content decoded parsed
  exact ⟨ready, stack, (within (fun _ _ => "") _).limit, read,
    (start_keepsBounds arguments (state excessive)).outsideInFile read names rfl (by decide)⟩

end DeskCalculator
