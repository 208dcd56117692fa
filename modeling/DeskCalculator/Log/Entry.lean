import DeskCalculator.Outcome

/-! What the program does is recorded as entries. An entry becomes one line: its
number, a letter for its severity, its category and its message, with bars
between them. The log is plain text, whatever a message holds. -/

namespace DeskCalculator.Log

inductive Severity where
  | error
  | warning
  | information
  | debug
  | trace
deriving DecidableEq, Repr

def Severity.letter : Severity → Char
  | error => 'E'
  | warning => 'W'
  | information => 'I'
  | debug => 'D'
  | trace => 'T'

def Severity.rank : Severity → Nat
  | error => 1
  | warning => 2
  | information => 3
  | debug => 4
  | trace => 5

inductive Category where
  | command
  | evaluation
  | function
  | keys
  | system
deriving DecidableEq, Repr

def Category.tag : Category → String
  | command => "CMD"
  | evaluation => "EVAL"
  | function => "FUNC"
  | keys => "KEYS"
  | system => "SYS"

structure Entry where
  severity : Severity
  category : Category
  message : String
deriving DecidableEq, Repr

def line (number : Nat) (severity : Severity) (tag message : String) : String :=
  s!"{number}|{severity.letter}|{tag}|{message}"

example : line 7 .warning "EVAL" "a|b" = "7|W|EVAL|a|b" := by decide +kernel

/-! What takes the entries lets some of them pass and drops the others. A line reaches the log
as it is, or without what steers a terminal. -/

structure Backend where
  passes : Entry → Bool
  shown : List Char → List Char

def Backend.line (backend : Backend) (number : Nat) (entry : Entry) : String :=
  let written := Log.line number entry.severity entry.category.tag entry.message
  String.ofList (backend.shown written.toList)

end DeskCalculator.Log
