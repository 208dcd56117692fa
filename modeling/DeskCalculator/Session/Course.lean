import DeskCalculator.Session.Transcript

/-! A session executes one line of input after the other and prints what each is answered
with. It ends with its input or with a line that says so, and it breaks off at a line
that is not text. -/

namespace DeskCalculator

inductive Ending where
  | finished
  | undecodable
deriving DecidableEq, Repr

/-- What a line of input leads to. Without an ending the session goes on. -/
structure Turn where
  events : List Event
  calculator : Calculator
  ending : Option Ending
deriving DecidableEq, Repr

structure Course where
  events : List Event
  calculator : Calculator
  ending : Ending
deriving DecidableEq, Repr

def finishedEvent : Event :=
  .logged ⟨.information, .system, "Session finished"⟩

/-- The line that a reply prints; quitting prints none. -/
def Reply.line? : Reply → Option String
  | display text => some (String.ofList text)
  | notice text => some text
  | quit => none

namespace Calculator

/-- The turn for one line, which has no text if its bytes are not well-formed. -/
def turn (line : Option (List Char)) (calculator : Calculator) : Turn :=
  match line with
  | none => ⟨[], calculator, some .undecodable⟩
  | some text =>
      let response := calculator.execute (Command.ofLine text)
      let logged := response.entries.map Event.logged
      match response.reply.line? with
      | some line => ⟨logged ++ [.output line], response.calculator, none⟩
      | none => ⟨logged ++ [finishedEvent], response.calculator, some .finished⟩

def session : List (Option (List Char)) → Calculator → Course
  | [], calculator => ⟨[finishedEvent], calculator, .finished⟩
  | line :: lines, calculator =>
      let turn := calculator.turn line
      match turn.ending with
      | some ending => ⟨turn.events, turn.calculator, ending⟩
      | none =>
          let later := session lines turn.calculator
          { later with events := turn.events ++ later.events }

example : ((start 1000 false).session [some "2*3=".toList, some "QUIT".toList, none]).ending =
    .finished := by decide +kernel

end Calculator

end DeskCalculator
