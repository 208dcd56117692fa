import DeskCalculator.Program.Failure
import DeskCalculator.Program.Inquiry
import DeskCalculator.Text.Line

/-! Settings come from a file, if one is named, and the nesting limit from the command
line comes after that. Both have to be in bounds, the file even where the command line
overrides it. -/

namespace DeskCalculator

namespace Settings

def checked (settings : Settings) : Except Failure Settings :=
  match limitFault? settings.limit with
  | none => .ok settings
  | some fault => .error (.limit fault)

def ofContent (path : List Char) (content : List UInt8) : Except Failure Settings :=
  match Text.decode? content with
  | none => .error (.input .undecodable)
  | some text =>
      match ofJson text with
      | .ok settings => settings.checked
      | .error fault => .error (.settingsText path text fault)

def ofFile (path : List Char) : Inquiry (Except Failure Settings) :=
  .readFile path fun
    | .ok content => .settled (ofContent path content)
    | .error fault => .settled (.error (.input fault))

end Settings

namespace Arguments

def adjust (arguments : Arguments) (settings : Settings) : Except Failure Settings :=
  Settings.checked { settings with limit := arguments.limit.getD settings.limit }

def settings (arguments : Arguments) : Inquiry (Except Failure Settings) :=
  match arguments.settingsFile with
  | .none => .settled (arguments.adjust .default)
  | some path =>
      (Settings.ofFile path.toList).andThen fun
        | .ok settings => .settled (arguments.adjust settings)
        | .error failure => .settled (.error failure)

end Arguments

inductive Start where
  | usage
  | failed (failure : Failure)
  | ready (settings : Settings) (expression : Option (List Char))
deriving DecidableEq, Repr

def Settings.openLog (settings : Settings) (expression : Option (List Char)) : Inquiry Start :=
  match settings.logFile with
  | none => .settled (.ready settings expression)
  | some path =>
      .openLog path fun
        | .ok () => .settled (.ready settings expression)
        | .error fault => .settled (.failed (.logFile path fault))

/-- The start with the given command line. Help is shown before any file is looked
at. -/
def Start.ofArguments (arguments : List String) : Inquiry Start :=
  match Arguments.ofList arguments with
  | .error fault => .settled (.failed (.usage fault))
  | .ok arguments =>
      if arguments.help then .settled .usage
      else
        arguments.settings.andThen fun
          | .ok settings => settings.openLog (arguments.expression.map String.toList)
          | .error failure => .settled (.failed failure)

end DeskCalculator
