import DeskCalculator.Outcome

/-! The program knows files by their paths only. What a path leads to is for the system to say:
it reads a file, it opens one for writing at its end, and it takes what is written there. -/

namespace DeskCalculator

/-- Why a file cannot be read or opened. The last one is any other reason that a
system may give. -/
inductive FileFault where
  | missing
  | denied
  | throughFile
  | isDirectory
  | nameTooLong
  | zeroInName
  | undecodable
  | other (reason : String)
deriving DecidableEq, Repr

def FileFault.message : FileFault → String
  | missing => "No such file or directory (os error 2)"
  | denied => "Permission denied (os error 13)"
  | throughFile => "Not a directory (os error 20)"
  | isDirectory => "Is a directory (os error 21)"
  | nameTooLong => "File name too long (os error 36)"
  | zeroInName => "file name contained an unexpected NUL byte"
  | undecodable => "stream did not contain valid UTF-8"
  | other reason => reason

/-- A system of files. Opening a log file may make the file; what is written by its path goes
through the file that has been opened. -/
structure FileSystem where
  State : Type
  read : State → List Char → Except FileFault (List UInt8)
  openLog : State → List Char → Except FileFault State
  write : State → List Char → List UInt8 → State

def fileBytes (text : String) : List UInt8 :=
  text.toUTF8.data.toList

def FileSystem.writeLines (system : FileSystem) (path : List Char) (state : system.State)
    (lines : List String) : system.State :=
  lines.foldl (fun state line => system.write state path (fileBytes (line ++ "\n"))) state

end DeskCalculator
