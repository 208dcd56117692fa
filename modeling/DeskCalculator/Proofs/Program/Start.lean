import DeskCalculator.Program.Start

/-! There are six ways to start, told apart by the command line, the settings and the log file.
Only the last of them changes the files. -/

namespace DeskCalculator

variable {system : FileSystem}

theorem Inquiry.settle_andThen {Result Next : Type} (inquiry : Inquiry Result)
    (next : Result → Inquiry Next) (state : system.State) :
    (inquiry.andThen next).settle state =
      (next (inquiry.settle state).1).settle (inquiry.settle state).2 := by
  induction inquiry generalizing state with
  | settled result => rfl
  | readFile path answered induction => exact induction (system.read state path) state
  | openLog path answered induction =>
      simp only [andThen, settle]
      split
      · exact induction _ _
      · exact induction _ _

/-- The settings that come of reading a file. -/
def Settings.ofRead (path : List Char) :
    Except FileFault (List UInt8) → Except Failure Settings
  | .ok content => ofContent path content
  | .error fault => .error (.input fault)

theorem Settings.settle_ofFile (path : List Char) (state : system.State) :
    (ofFile path).settle state = (ofRead path (system.read state path), state) := by
  simp only [ofFile, Inquiry.settle]
  cases system.read state path <;> rfl

/-- The settings that the command line asks for, or what is wrong with them. -/
def Arguments.settingsIn (arguments : Arguments) (state : system.State) :
    Except Failure Settings :=
  (arguments.settings.settle state).1

/-- No file is made or changed for the settings. -/
theorem Arguments.settle_settings (arguments : Arguments) (state : system.State) :
    arguments.settings.settle state = (arguments.settingsIn state, state) := by
  have unchanged : (arguments.settings.settle state).2 = state := by
    unfold settings
    split
    · rfl
    · rename_i path _
      rw [Inquiry.settle_andThen, Settings.settle_ofFile]
      cases (Settings.ofRead path.toList (system.read state path.toList)) <;> rfl
  exact Prod.ext rfl unchanged

/-- The command line asks for a run and not for help, and these are its settings. -/
structure Settles (arguments : List String) (state : system.State) (asked : Arguments)
    (settings : Settings) : Prop where
  read : Arguments.ofList arguments = .ok asked
  noHelp : asked.help = false
  settled : asked.settingsIn state = .ok settings

/-- The start, and the files afterwards. -/
inductive Starts (arguments : List String) (state : system.State) : Start → system.State → Prop
  | misused {fault : UsageFault} (misread : Arguments.ofList arguments = .error fault) :
      Starts arguments state (.failed (.usage fault)) state
  | usage {asked : Arguments} (read : Arguments.ofList arguments = .ok asked)
      (help : asked.help = true) : Starts arguments state .usage state
  | unsettled {asked : Arguments} {failure : Failure}
      (read : Arguments.ofList arguments = .ok asked) (noHelp : asked.help = false)
      (unsettled : asked.settingsIn state = .error failure) :
      Starts arguments state (.failed failure) state
  | unopened {asked : Arguments} {settings : Settings} {path : List Char} {fault : FileFault}
      (settles : Settles arguments state asked settings)
      (logged : settings.logFile = some path)
      (refused : system.openLog state path = .error fault) :
      Starts arguments state (.failed (.logFile path fault)) state
  | unlogged {asked : Arguments} {settings : Settings}
      (settles : Settles arguments state asked settings)
      (unlogged : settings.logFile = none) :
      Starts arguments state (.ready settings (asked.expression.map String.toList)) state
  | logged {asked : Arguments} {settings : Settings} {path : List Char}
      {after : system.State}
      (settles : Settles arguments state asked settings)
      (logged : settings.logFile = some path)
      (opened : system.openLog state path = .ok after) :
      Starts arguments state (.ready settings (asked.expression.map String.toList)) after

def startIn (arguments : List String) (state : system.State) : Start :=
  ((Start.ofArguments arguments).settle state).1

theorem starts_settle (arguments : List String) (state : system.State) :
    Starts arguments state (startIn arguments state)
      ((Start.ofArguments arguments).settle state).2 := by
  unfold startIn
  cases read : Arguments.ofList arguments with
  | error fault =>
      simp only [Start.ofArguments, read]
      exact .misused read
  | ok asked =>
      cases help : asked.help with
      | true =>
          simp only [Start.ofArguments, read, help, if_true]
          exact .usage read help
      | false =>
          simp only [Start.ofArguments, read, help, Bool.false_eq_true, if_false,
            Inquiry.settle_andThen, asked.settle_settings]
          cases settled : asked.settingsIn state with
          | error failure => exact .unsettled read help settled
          | ok settings =>
              cases logged : settings.logFile with
              | none =>
                  simp only [Settings.openLog, logged]
                  exact .unlogged ⟨read, help, settled⟩ logged
              | some path =>
                  simp only [Settings.openLog, logged, Inquiry.settle]
                  cases opened : system.openLog state path with
                  | ok name => exact .logged ⟨read, help, settled⟩ logged opened
                  | error fault => exact .unopened ⟨read, help, settled⟩ logged opened

theorem exists_settles_of_startIn {arguments : List String} {state : system.State}
    {settings : Settings} {expression : Option (List Char)}
    (ready : startIn arguments state = .ready settings expression) :
    ∃ asked, Settles arguments state asked settings := by
  have starts := starts_settle arguments state
  rw [ready] at starts
  generalize ((Start.ofArguments arguments).settle state).2 = after at starts
  cases starts with
  | unlogged settles | logged settles => exact ⟨_, settles⟩

/-! The cases exclude each other. -/

section

variable {arguments : List String} {state : system.State} {asked : Arguments}
  {settings : Settings}

theorem Settles.unique {others : Arguments} {otherSettings : Settings}
    (settles : Settles arguments state asked settings)
    (again : Settles arguments state others otherSettings) :
    others = asked ∧ otherSettings = settings := by
  cases settles.read.symm.trans again.read
  cases settles.settled.symm.trans again.settled
  exact ⟨rfl, rfl⟩

theorem not_settles_of_misused {fault : UsageFault}
    (misread : Arguments.ofList arguments = .error fault) :
    ¬Settles arguments state asked settings :=
  fun settles => nomatch misread.symm.trans settles.read

theorem not_settles_of_help {others : Arguments} (read : Arguments.ofList arguments = .ok others)
    (help : others.help = true) : ¬Settles arguments state asked settings := by
  intro settles
  cases read.symm.trans settles.read
  cases help.symm.trans settles.noHelp

theorem not_settles_of_unsettled {others : Arguments} {failure : Failure}
    (read : Arguments.ofList arguments = .ok others)
    (unsettled : others.settingsIn state = .error failure) :
    ¬Settles arguments state asked settings := by
  intro settles
  cases read.symm.trans settles.read
  cases unsettled.symm.trans settles.settled

end

end DeskCalculator
