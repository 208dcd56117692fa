import DeskCalculator.Program.Files
import DeskCalculator.Proofs.Program.LogFile

/-! Writing makes a file longer, or makes it, and touches nothing else. A path that opens a file
goes on opening the same one, so each path has a regular file. -/

namespace DeskCalculator

/-- The place of the file that a destination is for writing. -/
def Destination.filePlace? : Destination → Option Place
  | .file place _ => some place
  | .nothing place => some place
  | .directory _ => none
  | .longName => none

/-- What a destination has for a file. -/
def Destination.content : Destination → List UInt8
  | .file _ found => found.content
  | _ => []

namespace Files

variable {files : Files} {place next target : Place} {component path : List Char}
  {destination : Destination}

theorem find?_append_self (inside : target ≠ []) (bytes : List UInt8) :
    (files.append target bytes).find? target = some (.file (files.extended target bytes)) := by
  simp [find?, append, inside]

theorem find?_append_of_ne (different : place ≠ target) (bytes : List UInt8) :
    (files.append target bytes).find? place = files.find? place := by
  simp [find?, append, different.symm]

/-! ## One component -/

theorem filePlace?_lookup (writes : (files.lookup place).filePlace? = some target) :
    place = target := by
  unfold lookup at writes
  split at writes
  · cases writes
  · exact Option.some.inj writes
  · exact Option.some.inj writes

theorem content_extended (bytes : List UInt8) :
    (files.extended target bytes).content = (files.lookup target).content ++ bytes := by
  unfold extended lookup
  cases files.find? target with
  | none => rfl
  | some item => cases item <;> rfl

theorem lookup_append_self (inside : target ≠ []) (bytes : List UInt8) :
    (files.append target bytes).lookup target =
      .file target (files.extended target bytes) := by
  rw [lookup, find?_append_self inside]

theorem lookup_append_of_ne (different : place ≠ target) (bytes : List UInt8) :
    (files.append target bytes).lookup place = files.lookup place := by
  rw [lookup, find?_append_of_ne different, lookup]

/-- Whether a component names anything in the directory is seen from the component alone. -/
theorem enter_eq_lookup (writes : (files.enter place component).filePlace? = some target)
    (other : Files) :
    target = component :: place ∧ other.enter place component = other.lookup target := by
  unfold enter at writes ⊢
  split at writes
  · cases writes
  split at writes
  · cases writes
  split at writes
  · cases writes
  · cases filePlace?_lookup writes
    simp only [*, if_false, and_self]

/-- The way through directories stays open where a file is written. -/
theorem enter_append (noDirectory : (files.lookup target).filePlace? = some target)
    (enters : files.enter place component = .directory next) (bytes : List UInt8) :
    (files.append target bytes).enter place component = .directory next := by
  have elsewhere : files.lookup (component :: place) = .directory next →
      component :: place ≠ target := by
    rintro isDirectory rfl
    rw [isDirectory] at noDirectory
    cases noDirectory
  unfold enter at enters ⊢
  split
  · simpa [*] using enters
  split
  · simpa [*] using enters
  split
  · simp [*] at enters
  · simp only [*, if_false] at enters
    rw [lookup_append_of_ne (elsewhere enters), enters]

/-! ## Paths

What a path leads to in the end is found there, and once it is written at the path leads to
the longer file. -/

theorem lookup_of_follow {components : List (List Char)}
    (leads : files.follow place components = .ok destination)
    (writes : destination.filePlace? = some target) :
    files.lookup target = destination ∧ target ≠ [] := by
  induction components generalizing place with
  | nil =>
      cases leads
      cases writes
  | cons component rest induction =>
      cases rest with
      | nil =>
          cases leads
          rcases enter_eq_lookup writes files with ⟨rfl, found⟩
          exact ⟨found.symm, List.cons_ne_nil _ _⟩
      | cons other rest =>
          rw [follow] at leads
          split at leads
          · exact induction leads
          · cases leads

theorem follow_append {components : List (List Char)}
    (leads : files.follow place components = .ok destination)
    (writes : destination.filePlace? = some target) (bytes : List UInt8) :
    (files.append target bytes).follow place components =
      .ok (.file target (files.extended target bytes)) := by
  rcases lookup_of_follow leads writes with ⟨found, inside⟩
  have noDirectory : (files.lookup target).filePlace? = some target := found ▸ writes
  induction components generalizing place with
  | nil =>
      cases leads
      cases writes
  | cons component rest induction =>
      cases rest with
      | nil =>
          cases leads
          rw [follow, (enter_eq_lookup writes _).2, lookup_append_self inside]
      | cons other rest =>
          rw [follow] at leads
          cases entered : files.enter place component with
          | directory next =>
              rw [entered] at leads
              rw [follow, enter_append noDirectory entered]
              exact induction leads
          | file | nothing | longName =>
              rw [entered] at leads
              cases leads

theorem destination_of_faultless (faultless : pathFault? path = none) (files : Files) :
    files.destination path =
      files.follow (if path.head? = some '/' then [] else files.working) (components path) := by
  rw [Files.destination, faultless]

theorem faultless_of_destination (leads : files.destination path = .ok destination) :
    pathFault? path = none := by
  unfold Files.destination at leads
  split at leads
  · cases leads
  · assumption

theorem lookup_of_destination (leads : files.destination path = .ok destination)
    (writes : destination.filePlace? = some target) : files.lookup target = destination := by
  rw [destination_of_faultless (faultless_of_destination leads)] at leads
  exact (lookup_of_follow leads writes).1

theorem destination_append (leads : files.destination path = .ok destination)
    (writes : destination.filePlace? = some target) (bytes : List UInt8) :
    (files.append target bytes).destination path =
      .ok (.file target (files.extended target bytes)) := by
  have faultless := faultless_of_destination leads
  rw [destination_of_faultless faultless] at leads ⊢
  exact follow_append leads writes bytes

theorem exists_destination_of_appendable (opened : files.appendable path = .ok target) :
    ∃ destination, files.destination path = .ok destination ∧
      destination.filePlace? = some target := by
  simp only [appendable] at opened
  split at opened
  · cases opened
  · cases opened
  · cases opened
  · rename_i leadsTo _ _ leads
    split at opened
    · cases opened
    · rename_i trimmed
      have same : withoutSlashes path = path := Decidable.not_not.mp trimmed
      simp only [same, ite_self] at leads
      refine ⟨leadsTo, leads, ?_⟩
      cases leadsTo with
      | file place file =>
          dsimp only at opened
          split at opened
          · simpa [Destination.filePlace?] using opened
          · cases opened
      | nothing place => simpa [Destination.filePlace?] using opened
      | directory | longName => cases opened

/-! ## Regular files -/

/-- What the file that a path leads to holds. A file that is not there yet holds nothing. -/
def contentAt (path : List Char) (files : Files) : List UInt8 :=
  match files.destination path with
  | .ok destination => destination.content
  | .error _ => []

theorem contentAt_append (leads : files.destination path = .ok destination)
    (writes : destination.filePlace? = some target) (bytes : List UInt8) :
    contentAt path (files.append target bytes) = contentAt path files ++ bytes := by
  rw [contentAt, destination_append leads writes, contentAt, leads]
  dsimp only
  rw [← lookup_of_destination leads writes, ← content_extended]
  rfl

def regularFile (path : List Char) : system.RegularFile path where
  content := contentAt path
  IsOpen files := ∃ place file, Files.destination files path = .ok (.file place file)
  openLog := by
    intro files opened opens
    cases appendable : Files.appendable files path with
    | error fault =>
        simp only [system, appendable] at opens
        cases opens
    | ok target =>
        simp only [system, appendable] at opens
        cases opens
        rcases exists_destination_of_appendable appendable with ⟨destination, leads, writes⟩
        refine ⟨⟨_, _, destination_append leads writes []⟩, ?_⟩
        rw [contentAt_append leads writes, List.append_nil]
  write := by
    rintro files ⟨place, file, leads⟩ bytes
    have written : system.write files path bytes = Files.append files place bytes := by
      simp only [system, write, leads]
    rw [written]
    exact ⟨⟨_, _, destination_append leads rfl bytes⟩, contentAt_append leads rfl bytes⟩

end Files

end DeskCalculator
