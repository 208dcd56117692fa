/-! Input comes as bytes. A line ends at a line feed, and one carriage return in front of
it belongs to the end. What is left behind the last line feed is a line if it is not
empty, and keeps its carriage return. -/

namespace DeskCalculator.Text

def lineFeed : UInt8 := 10

def carriageReturn : UInt8 := 13

/-- A line whose line feed has been cut off, without its carriage return. -/
def withoutReturn (line : List UInt8) : List UInt8 :=
  if line.getLast? = some carriageReturn then line.dropLast else line

def cutLine? : List UInt8 → Option (List UInt8 × List UInt8)
  | [] => none
  | byte :: rest =>
      if byte = lineFeed then some ([], rest)
      else (cutLine? rest).map fun (line, behind) => (byte :: line, behind)

theorem length_cutLine?_lt {bytes line rest : List UInt8}
    (cut : cutLine? bytes = some (line, rest)) : rest.length < bytes.length := by
  induction bytes generalizing line with
  | nil => simp [cutLine?] at cut
  | cons byte behind induction =>
      unfold cutLine? at cut
      split at cut
      · cases cut
        simp
      · obtain ⟨⟨inner, after⟩, found, equal⟩ := Option.map_eq_some_iff.1 cut
        cases equal
        have shorter := induction found
        simp only [List.length_cons]
        omega

def lines (bytes : List UInt8) : List (List UInt8) :=
  match _cut : cutLine? bytes with
  | some (line, rest) => withoutReturn line :: lines rest
  | none => if bytes.isEmpty then [] else [bytes]
termination_by bytes.length
decreasing_by exact length_cutLine?_lt _cut

example : lines "a\r\r\n\nb\r".toUTF8.data.toList =
    ["a\r", "", "b\r"].map fun line => line.toUTF8.data.toList := by decide +kernel

def decode? (bytes : List UInt8) : Option (List Char) :=
  (String.fromUTF8? ⟨bytes.toArray⟩).map String.toList

end DeskCalculator.Text
