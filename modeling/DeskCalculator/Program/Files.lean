import DeskCalculator.Program.FileSystem

/-! Files in directories that hold one another, up to a root. A path with a slash in front
starts at the root, and any other path at the working directory. It is read component by
component: the empty one and the single dot stay where they are, and two dots lead to the
directory above. -/

namespace DeskCalculator

/-- The names that lead to something from the root, the last of them first. -/
abbrev Place :=
  List (List Char)

structure File where
  content : List UInt8
  readable : Bool
  writable : Bool
deriving DecidableEq, Repr

inductive Item where
  | directory
  | file (file : File)
deriving DecidableEq, Repr

/-- What stands in a directory. Where two items have one place, the first counts. -/
structure Files where
  working : Place
  items : List (Place × Item)
deriving DecidableEq, Repr

/-- Where a path leads. The last of its names may be longer than any file's. -/
inductive Destination where
  | directory (place : Place)
  | file (place : Place) (file : File)
  | nothing (place : Place)
  | longName
deriving DecidableEq, Repr

/-- Only a directory has a way on. -/
def Destination.passage : Destination → Except FileFault Place
  | directory place => .ok place
  | file _ _ => .error .throughFile
  | nothing _ => .error .missing
  | longName => .error .nameTooLong

def components : List Char → List (List Char)
  | [] => [[]]
  | '/' :: rest => [] :: components rest
  | character :: rest =>
      match components rest with
      | [] => [[character]]
      | component :: others => (character :: component) :: others

def byteCount (text : List Char) : Nat :=
  (String.ofList text).utf8ByteSize

def longestName : Nat :=
  255

def longestPath : Nat :=
  4095

/-- What is wrong with a path before it leads anywhere. No system takes a name with a zero
character in it. -/
def pathFault? (path : List Char) : Option FileFault :=
  if path.contains '\x00' then some .zeroInName
  else if path.isEmpty then some .missing
  else if longestPath < byteCount path then some .nameTooLong
  else none

def withoutSlashes (path : List Char) : List Char :=
  (path.reverse.dropWhile (· == '/')).reverse

namespace Files

def find? (files : Files) (place : Place) : Option Item :=
  if place = [] then some .directory
  else (files.items.find? fun item => item.1 == place).map Prod.snd

def lookup (files : Files) (place : Place) : Destination :=
  match files.find? place with
  | some .directory => .directory place
  | some (.file file) => .file place file
  | none => .nothing place

def enter (files : Files) (place : Place) (component : List Char) : Destination :=
  if component = [] ∨ component = ['.'] then .directory place
  else if component = ['.', '.'] then .directory place.tail
  else if longestName < byteCount component then .longName
  else files.lookup (component :: place)

def follow (files : Files) (place : Place) : List (List Char) → Except FileFault Destination
  | [] => .ok (.directory place)
  | [component] => .ok (files.enter place component)
  | component :: other :: rest =>
      match (files.enter place component).passage with
      | .ok next => files.follow next (other :: rest)
      | .error fault => .error fault

def destination (files : Files) (path : List Char) : Except FileFault Destination :=
  match pathFault? path with
  | some fault => .error fault
  | none => files.follow (if path.head? = some '/' then [] else files.working) (components path)

def read (files : Files) (path : List Char) : Except FileFault (List UInt8) :=
  match files.destination path with
  | .ok (.file _ file) => if file.readable then .ok file.content else .error .denied
  | .ok (.nothing _) => .error .missing
  | .ok (.directory _) => .error .isDirectory
  | .ok .longName => .error .nameTooLong
  | .error fault => .error fault

/-- Where a path opens a file for writing at its end. A slash behind the name asks for a
directory, whatever the name. -/
def appendable (files : Files) (path : List Char) : Except FileFault Place :=
  let trimmed := withoutSlashes path
  let name := if trimmed.isEmpty then path else trimmed
  match pathFault? path, files.destination name with
  | some fault, _ | none, .error fault => .error fault
  | none, .ok (.directory _) => .error .isDirectory
  | none, .ok destination =>
      if trimmed ≠ path then .error .isDirectory
      else
        match destination with
        | .file place file => if file.writable then .ok place else .error .denied
        | .nothing place => .ok place
        | _ => .error .nameTooLong

/-- The file at a place once bytes have come to its end. It is made if there is none. -/
def extended (files : Files) (place : Place) (bytes : List UInt8) : File :=
  match files.find? place with
  | some (.file file) => { file with content := file.content ++ bytes }
  | _ => ⟨bytes, true, true⟩

def append (files : Files) (place : Place) (bytes : List UInt8) : Files :=
  { files with items := (place, .file (files.extended place bytes)) :: files.items }

def write (files : Files) (path : List Char) (bytes : List UInt8) : Files :=
  match files.destination path with
  | .ok (.file place _) => files.append place bytes
  | _ => files

def system : FileSystem where
  State := Files
  read := read
  openLog files path := (files.appendable path).map fun place => files.append place []
  write := write

/-- Files in the working directory, which may be read and written. -/
def here (contents : List (List Char × List UInt8)) : Files :=
  let working : Place := ["here".toList]
  let item (file : List Char × List UInt8) : Place × Item :=
    (file.1 :: working, .file ⟨file.2, true, true⟩)
  ⟨working, (working, .directory) :: contents.map item⟩

example : appendable (here [(['x'], [])]) "../here/y".toList = .ok [['y'], "here".toList] := by
  decide +kernel

end Files

end DeskCalculator
