import DeskCalculator.Log.Filter
import DeskCalculator.Session.Response

/-! What a run does that can be seen, in order. The backend of the log has a say only when a
transcript is written down: it drops entries, and those that it lets pass are numbered. -/

namespace DeskCalculator

inductive Event where
  | logged (entry : Log.Entry)
  | output (line : String)
  | complaint (line : String)
deriving DecidableEq, Repr

inductive Channel where
  | log
  | output
  | errors
deriving DecidableEq, Repr

structure WrittenLine where
  channel : Channel
  text : String
deriving DecidableEq, Repr

/-- The lines that events become. Log lines are numbered from `number` without gaps; an entry
that is held back takes no number. The counter has 64 bits, and the number stands for it as
long as there are fewer lines than that. -/
def writtenLines (backend : Log.Backend) (number : Nat) : List Event → List WrittenLine
  | [] => []
  | .logged entry :: events =>
      if backend.passes entry then
        ⟨.log, backend.line number entry⟩ :: writtenLines backend (number + 1) events
      else writtenLines backend number events
  | .output line :: events => ⟨.output, line⟩ :: writtenLines backend number events
  | .complaint line :: events => ⟨.errors, line⟩ :: writtenLines backend number events

def nextNumber (number : Nat) (lines : List WrittenLine) : Nat :=
  number + lines.countP fun line => line.channel == .log

def linesOn (channels : List Channel) (lines : List WrittenLine) : List String :=
  (lines.filter fun line => channels.contains line.channel).map WrittenLine.text

def endedLines (texts : List String) : String :=
  String.join (texts.map fun text => text ++ "\n")

def channelText (channels : List Channel) (lines : List WrittenLine) : String :=
  endedLines (linesOn channels lines)

example :
    writtenLines .default 1
      [.logged ⟨.debug, .system, "a"⟩, .output "b", .logged ⟨.warning, .system, "c"⟩] =
      [⟨.output, "b"⟩, ⟨.log, "1|W|SYS|c"⟩] := by decide +kernel

end DeskCalculator
