import DeskCalculator.Program.FileSystem

/-! An inquiry is a computation that asks about files on its way to a result. Any system of
files has answers to it. -/

namespace DeskCalculator

inductive Inquiry (Result : Type) where
  | settled (result : Result)
  | readFile (path : List Char) (answered : Except FileFault (List UInt8) → Inquiry Result)
  | openLog (path : List Char) (answered : Except FileFault Unit → Inquiry Result)

namespace Inquiry

variable {Result Next : Type}

def andThen (inquiry : Inquiry Result) (next : Result → Inquiry Next) : Inquiry Next :=
  match inquiry with
  | settled result => next result
  | readFile path answered => readFile path fun answer => (answered answer).andThen next
  | openLog path answered => openLog path fun answer => (answered answer).andThen next

/-- The result in a system of files, and its state afterwards. -/
def settle {system : FileSystem} (state : system.State) :
    Inquiry Result → Result × system.State
  | settled result => (result, state)
  | readFile path answered => (answered (system.read state path)).settle state
  | openLog path answered =>
      match system.openLog state path with
      | .ok opened => (answered (.ok ())).settle opened
      | .error fault => (answered (.error fault)).settle state

end Inquiry

end DeskCalculator
