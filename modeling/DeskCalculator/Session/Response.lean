import DeskCalculator.Log.Entry
import DeskCalculator.Session.Command
import DeskCalculator.Text.Quoted

/-! Executing a command changes the calculator, answers with a reply and leaves
entries for the log. -/

namespace DeskCalculator

inductive Reply where
  | display (text : List Char)
  | notice (text : String)
  | quit
deriving DecidableEq, Repr

structure Response where
  reply : Reply
  calculator : Calculator
  entries : List Log.Entry
deriving DecidableEq, Repr

def helpText : String :=
  "Type an expression (digits, + - * / ^ ( ) .) and end it with '=' to evaluate.\n" ++
  "Commands:\n" ++
  "  =                  evaluate the display\n" ++
  "  C | clear          clear the display\n" ++
  "  back               delete the last character\n" ++
  "  sci                toggle scientific mode\n" ++
  "  sin cos tan log sqrt   apply a function to the displayed number (scientific mode)\n" ++
  "  show               print the display\n" ++
  "  quit | exit        leave"

namespace Calculator

/-! The operations of the calculator with what they leave in the log. -/

def pressLogged (key : Char) (calculator : Calculator) : Calculator × List Log.Entry :=
  let (taken, after) := calculator.press key
  (after, if taken then []
    else [⟨.debug, .keys, s!"ignored key {Text.quotedCharacter key}"⟩])

def equalsLogged (calculator : Calculator) : Calculator × List Log.Entry :=
  let shown := Text.quoted calculator.display
  let (result, after) := calculator.equals
  (after, match result with
    | .ok value =>
        [⟨.debug, .evaluation, s!"{shown} -> {String.ofList (Number.plainText value)}"⟩]
    | .error misreading =>
        [⟨.warning, .evaluation, s!"{shown} failed: {misreading.message}"⟩])

/-- Types keys in order. An equals sign among them evaluates what is on the display
by then; if that fails, the keys behind it are typed all the same. -/
def typeLogged : List Char → Calculator → Calculator × List Log.Entry
  | [], calculator => (calculator, [])
  | key :: keys, calculator =>
      let (next, entries) :=
        if key == '=' then calculator.equalsLogged else calculator.pressLogged key
      let (last, laterEntries) := typeLogged keys next
      (last, entries ++ laterEntries)

def applyLogged (function : Function) (calculator : Calculator) :
    Except CalculationError Unit × Calculator × List Log.Entry :=
  let call := s!"{function.label}({Text.quoted calculator.display})"
  let (result, after) := calculator.apply function
  (result, after, match result with
    | .ok () => [⟨.debug, .function, s!"{call} -> {String.ofList after.display}"⟩]
    | .error (.misread misreading) =>
        [⟨.warning, .function, s!"{call} failed: {misreading.message}"⟩]
    | .error (.scientificModeOff _) =>
        [⟨.warning, .command, s!"{function.label} rejected outside scientific mode"⟩])

def answer (calculator : Calculator) (entries : List Log.Entry) : Response :=
  ⟨.display calculator.display, calculator, entries⟩

def execute (command : Command) (calculator : Calculator) : Response :=
  match command with
  | .keys text =>
      let (after, entries) := calculator.typeLogged text
      let first : Log.Entry :=
        ⟨.debug, .command, s!"ENTER press_keys keys={Text.quoted text}"⟩
      let last : Log.Entry :=
        ⟨.debug, .command, s!"EXIT press_keys display={Text.quoted after.display}"⟩
      after.answer (first :: entries ++ [last])
  | .equals =>
      let (after, entries) := calculator.equalsLogged
      after.answer entries
  | .clear => ⟨.display [], calculator.clear, []⟩
  | .backspace => calculator.backspace.answer []
  | .toggleScientific =>
      let after := calculator.toggleScientific
      let mode := if after.scientific then "on" else "off"
      let text := s!"scientific mode {mode}"
      ⟨.notice text, after, [⟨.information, .command, text⟩]⟩
  | .apply function =>
      let (result, after, entries) := calculator.applyLogged function
      match result with
      | .error (.scientificModeOff function) =>
          ⟨.notice (CalculationError.scientificModeOff function).message, after, entries⟩
      | _ => after.answer entries
  | .showDisplay => calculator.answer []
  | .help => ⟨.notice helpText, calculator, []⟩
  | .quit => ⟨.quit, calculator, []⟩

end Calculator

end DeskCalculator
