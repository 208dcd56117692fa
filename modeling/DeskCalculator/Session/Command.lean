import DeskCalculator.Calculator

/-! A line of a session is a command word or a run of keys. Command words are
recognised in any case and with blanks around them. -/

namespace DeskCalculator

inductive Command where
  | keys (text : List Char)
  | equals
  | clear
  | backspace
  | toggleScientific
  | apply (function : Function)
  | showDisplay
  | help
  | quit
deriving DecidableEq, Repr

namespace Command

/-- The command words that are no function names; an empty line shows the display. -/
def words : List (String × Command) :=
  [("", showDisplay), ("show", showDisplay), ("=", equals), ("c", clear),
    ("clear", clear), ("back", backspace), ("bs", backspace), ("sci", toggleScientific),
    ("help", help), ("?", help), ("quit", quit), ("exit", quit)]

def ofWord? (word : List Char) : Option Command :=
  match words.find? fun entry => entry.1.toList == word with
  | some entry => some entry.2
  | none => (Function.ofWord? word).map apply

/-- The command that a line gives. What is no command word is typed as it stands,
without the blanks around it. -/
def ofLine (line : List Char) : Command :=
  match ofWord? (Text.word line) with
  | some command => command
  | none => keys (Text.trim line)

example : ofLine " BACK\r".toList = backspace := by decide

end Command

end DeskCalculator
