import DeskCalculator.Outcome
import DeskCalculator.Text.Digit

/-! The command line is a list of groups: a flag alone, or a flag with the argument
behind it, whatever that looks like. Of groups for the same thing the last counts. -/

namespace DeskCalculator

structure Arguments where
  settingsFile : Option String
  limit : Option Nat
  expression : Option String
  help : Bool
deriving DecidableEq, Repr

inductive UsageFault where
  | missingValue (flag : String)
  | notANumber (value : String)
  | unknownArgument (argument : String)
deriving DecidableEq, Repr

def usageText : String :=
  "Usage: smartcalc [--config <file.json>] [--max-depth <n>] [-e <expression>]\n\n" ++
  "Without -e, reads commands from standard input (type 'help')."

def UsageFault.message : UsageFault → String
  | missingValue flag => s!"{flag} expects a value\n{usageText}"
  | notANumber value => s!"--max-depth expects a number, got '{value}'"
  | unknownArgument argument => s!"unknown argument '{argument}'\n{usageText}"

/-- What a flag gives the value behind it to. -/
inductive Subject where
  | settingsFile
  | limit
  | expression
deriving DecidableEq, Repr

inductive Flag where
  | help
  | valued (subject : Subject)
deriving DecidableEq, Repr

def Flag.ofArgument? : String → Option Flag
  | "-h" | "--help" => some help
  | "-c" | "--config" => some (valued .settingsFile)
  | "--max-depth" => some (valued .limit)
  | "-e" | "--eval" => some (valued .expression)
  | _ => none

namespace Arguments

def none : Arguments :=
  ⟨.none, .none, .none, false⟩

def set (arguments : Arguments) (subject : Subject) (value : String) :
    Except UsageFault Arguments :=
  match subject with
  | .settingsFile => .ok { arguments with settingsFile := some value }
  | .expression => .ok { arguments with expression := some value }
  | .limit =>
      match Text.naturalBelow? Text.wordBound value.toList with
      | some limit => .ok { arguments with limit := some limit }
      | .none => .error (.notANumber value)

def read (arguments : Arguments) : List String → Except UsageFault Arguments
  | [] => .ok arguments
  | argument :: rest =>
      match Flag.ofArgument? argument with
      | .none => .error (.unknownArgument argument)
      | some .help => read { arguments with help := true } rest
      | some (.valued subject) =>
          match rest with
          | [] => .error (.missingValue argument)
          | value :: rest =>
              match arguments.set subject value with
              | .ok arguments => read arguments rest
              | .error fault => .error fault

def ofList (arguments : List String) : Except UsageFault Arguments :=
  none.read arguments

example : ofList ["-e", "-h", "--max-depth", "+7", "-e", "1"] =
    .ok { none with limit := some 7, expression := some "1" } := by decide +kernel

end Arguments

end DeskCalculator
