import DeskCalculator.Program.Arguments
import DeskCalculator.Program.FileSystem
import DeskCalculator.Settings

/-! What keeps the program from starting, or breaks off a session. -/

namespace DeskCalculator

inductive Failure where
  | usage (fault : UsageFault)
  | input (fault : FileFault)
  | settingsText (path text : List Char) (fault : Json.Fault)
  | limit (fault : LimitFault)
  | logFile (path : List Char) (fault : FileFault)
deriving DecidableEq, Repr

/-- What is said about a text that holds no settings. The words are not the program's own. -/
abbrev Wording :=
  List Char → Json.Fault → String

def Failure.settingsHeading (path : List Char) : String :=
  s!"Invalid config file {String.ofList path}: "

def Failure.message (wording : Wording) : Failure → String
  | usage fault => fault.message
  | input fault => s!"IO error: {fault.message}"
  | settingsText path text fault => settingsHeading path ++ wording text fault
  | limit fault => s!"Invalid configuration: {fault.message}"
  | logFile path fault => s!"Cannot open log file {String.ofList path}: {fault.message}"

end DeskCalculator
