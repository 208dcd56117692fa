import DeskCalculator.Session.Response
import DeskCalculator.Settings

/-! A session works at a desk: a calculator behind a lock, and the settings that it was made with.
A lock is poisoned once someone has broken off while holding it, and then nobody gets at the
calculator any more. Commands do not break off. -/

namespace DeskCalculator

structure Desk where
  calculator : Calculator
  settings : Settings
  poisoned : Bool
deriving DecidableEq, Repr

inductive DeskFault where
  | poisoned
deriving DecidableEq, Repr

def DeskFault.message : DeskFault → String
  | poisoned => "Calculator state lock poisoned"

structure Execution where
  outcome : Except DeskFault Reply
  desk : Desk
  entries : List Log.Entry
deriving DecidableEq

namespace Command

def locks : Command → Bool
  | help | quit => false
  | _ => true

/-- What a command enters in the log before it asks for the lock. -/
def announcement : Command → List Log.Entry
  | keys text => [⟨.debug, .command, s!"ENTER press_keys keys={Text.quoted text}"⟩]
  | _ => []

end Command

namespace Desk

def start (settings : Settings) : Desk :=
  ⟨.start settings.limit settings.scientific, settings, false⟩

def execute (command : Command) (desk : Desk) : Execution :=
  if command.locks && desk.poisoned then
    ⟨.error .poisoned, desk, command.announcement⟩
  else
    let response := desk.calculator.execute command
    ⟨.ok response.reply, { desk with calculator := response.calculator }, response.entries⟩

example : ({ start .default with poisoned := true }.execute .showDisplay).outcome =
    .error .poisoned := by decide +kernel

end Desk

end DeskCalculator
