import DeskCalculator.Program.Run

/-! The command line itself. Everything is decided elsewhere. What follows answers inquiries from
the file system, cuts standard input into lines and prints what a run does as it goes on. -/

namespace DeskCalculator

/-- The fault that an operation of the system reports. A code may be negated; two
kinds of inappropriate files share one error and differ in their codes. -/
def FileFault.ofError : IO.Error → FileFault
  | .noFileOrDirectory .. => .missing
  | .permissionDenied .. => .denied
  | .inappropriateType _ code _ =>
      if code = 21 ∨ code = 0 - 21 then .isDirectory else .throughFile
  | .invalidArgument _ code details =>
      if code = 36 ∨ code = 0 - 36 then .nameTooLong else .other details
  | error => .other (toString error)

/-- Words of its own for a text that holds no settings, without the line and the column. -/
def plainWording : Wording
  | _, .ended => "the text ends too early"
  | _, .malformed => "not JSON"
  | _, .mismatched => "not the shape of settings"

def attempt {Result : Type} (path : List Char) (operation : String → IO Result) :
    IO (Except FileFault Result) := do
  if path.contains '\x00' then return .error .zeroInName
  try
    return .ok (← operation (String.ofList path))
  catch error =>
    return .error (FileFault.ofError error)

def openForAppending (path : String) : IO IO.FS.Handle :=
  IO.FS.Handle.mk path .append

def Inquiry.perform {Result : Type} : Inquiry Result → IO Result
  | settled result => return result
  | readFile path answered => do
      let content ← attempt path fun name => IO.FS.readBinFile name
      (answered (content.map fun bytes => bytes.data.toList)).perform
  | openLog path answered => do
      let opened ← attempt path fun name => discard (openForAppending name)
      (answered opened).perform

structure Printer where
  backend : Log.Backend
  output : IO.FS.Stream
  errors : IO.FS.Stream
  log : IO.FS.Stream

def Printer.printLine (printer : Printer) (line : WrittenLine) : IO Unit := do
  let stream := match line.channel with
    | .output => printer.output
    | .errors => printer.errors
    | .log => printer.log
  stream.putStr (line.text ++ "\n")
  stream.flush

/-- Prints events; the answer is the number of the next log line. -/
def Printer.print (printer : Printer) (number : Nat) (events : List Event) : IO Nat := do
  let lines := writtenLines printer.backend number events
  lines.forM printer.printLine
  return nextNumber number lines

def Printer.finish (printer : Printer) (number : Nat) (transcript : Transcript) : IO Bool := do
  discard (printer.print number transcript.events)
  return transcript.succeeded

partial def readLineBytes (input : IO.FS.Stream) (line : ByteArray) : IO (List UInt8) := do
  let next ← input.read 1
  let line := line ++ next
  if next.isEmpty || next.data.contains Text.lineFeed then return line.data.toList
  readLineBytes input line

partial def Printer.converse (printer : Printer) (input : IO.FS.Stream) (number : Nat)
    (calculator : Calculator) : IO Bool := do
  match Text.lines (← readLineBytes input .empty) with
  | [] => printer.finish number ((calculator.session []).transcript plainWording)
  | line :: _ =>
      let turn := calculator.turn (Text.decode? line)
      match turn.ending with
      | some ending =>
          let course : Course := ⟨turn.events, turn.calculator, ending⟩
          printer.finish number (course.transcript plainWording)
      | none =>
          let number ← printer.print number turn.events
          printer.converse input number turn.calculator

/-- The backend with a filter. Lines that go to a terminal stay as they are, and so do all
lines when the style says so. -/
def backendFor (filter : Log.Filter) (style : Option String) (toTerminal : Bool) :
    Log.Backend :=
  let plain := filter.backend Log.Filter.standsIn
  match style with
  | some "always" => { plain with shown := id }
  | some "never" => plain
  | _ => if toTerminal then { plain with shown := id } else plain

def Start.perform (filter : Log.Filter) (style : Option String) (start : Start) :
    IO Bool := do
  let output ← IO.getStdout
  let errors ← IO.getStderr
  let (log, toTerminal) ← match start.logFile with
    | some path => do
        let handle ← openForAppending (String.ofList path)
        pure (IO.FS.Stream.ofHandle handle, false)
    | none => do pure (errors, ← errors.isTty)
  let printer : Printer := ⟨backendFor filter style toTerminal, output, errors, log⟩
  match start with
  | ready settings none => do
      let number ← printer.print 1 settings.startEvents
      printer.converse (← IO.getStdin) number settings.calculator
  | _ => printer.finish 1 (start.transcript plainWording [])

end DeskCalculator

def main (arguments : List String) : IO UInt32 := do
  let filter := match ← IO.getEnv "RUST_LOG" with
    | some text => DeskCalculator.Log.Filter.ofText text.toList
    | none => .default
  let style ← IO.getEnv "RUST_LOG_STYLE"
  let start ← (DeskCalculator.Start.ofArguments arguments).perform
  let succeeded ← start.perform filter style
  return if succeeded then 0 else 1
