import DeskCalculator.Program.FileSystem
import DeskCalculator.Session.Transcript

/-! A log file grows at its end. What a system of files owes to a regular file is that opening
leaves its content alone and that writing adds to it. -/

namespace DeskCalculator

/-- The file that a path opens, as a part of the states of a system. -/
structure FileSystem.RegularFile (system : FileSystem) (path : List Char) where
  content : system.State → List UInt8
  IsOpen : system.State → Prop
  openLog {state opened : system.State} (opens : system.openLog state path = .ok opened) :
    IsOpen opened ∧ content opened = content state
  write {state : system.State} (isOpen : IsOpen state) (bytes : List UInt8) :
    IsOpen (system.write state path bytes) ∧
      content (system.write state path bytes) = content state ++ bytes

theorem fileBytes_append (left right : String) :
    fileBytes (left ++ right) = fileBytes left ++ fileBytes right := by
  simp [fileBytes]

theorem fileBytes_endedLines_cons (text : String) (texts : List String) :
    fileBytes (endedLines (text :: texts)) =
      fileBytes (text ++ "\n") ++ fileBytes (endedLines texts) := by
  rw [endedLines, List.map_cons, String.join_cons, fileBytes_append, endedLines]

namespace FileSystem.RegularFile

variable {system : FileSystem} {path : List Char} {state : system.State}

theorem content_writeLines (file : system.RegularFile path) (isOpen : file.IsOpen state)
    (lines : List String) :
    file.content (system.writeLines path state lines) =
      file.content state ++ fileBytes (endedLines lines) := by
  induction lines generalizing state with
  | nil => exact (List.append_nil _).symm
  | cons line lines induction =>
      rcases file.write isOpen (fileBytes (line ++ "\n")) with ⟨stillOpen, grown⟩
      have later := induction stillOpen
      rw [grown, List.append_assoc, ← fileBytes_endedLines_cons] at later
      exact later

/-- What stood in the file stays in front. -/
theorem content_logged (file : system.RegularFile path) {opened : system.State}
    (opens : system.openLog state path = .ok opened) (lines : List String) :
    file.content (system.writeLines path opened lines) =
      file.content state ++ fileBytes (endedLines lines) := by
  rcases file.openLog opens with ⟨isOpen, unchanged⟩
  rw [file.content_writeLines isOpen, unchanged]

end FileSystem.RegularFile

end DeskCalculator
