import DeskCalculator.Log.Entry
import DeskCalculator.Proofs.Text.OneLine

/-! In front of its message a log line holds no bars but those that end its parts. So it comes
apart at its first three bars, whatever bars there are in the message. -/

namespace DeskCalculator.Log

open Text

/-- A text cut at its bars, but not at more than the first `count` of them. -/
def cutAtBars : Nat → List Char → List (List Char)
  | 0, text => [text]
  | count + 1, text =>
      match text.dropWhile (· != '|') with
      | [] => [text]
      | _ :: rest => text.takeWhile (· != '|') :: cutAtBars count rest

theorem cutAtBars_append {part : List Char} (unbarred : '|' ∉ part) (count : Nat)
    (rest : List Char) :
    cutAtBars (count + 1) (part ++ '|' :: rest) = part :: cutAtBars count rest := by
  have all : Throughout (· != '|') part := by
    intro character member
    rw [bne_iff_ne]
    rintro rfl
    exact unbarred member
  have stops : NotAhead (· != '|') ('|' :: rest) := (notAhead_cons _ _).mpr (by decide)
  rw [cutAtBars, all.dropWhile_append stops, all.takeWhile_append stops]

def letters : List Char :=
  "EWIDT".toList

def tags : List (List Char) :=
  ["CMD", "EVAL", "FUNC", "KEYS", "SYS"].map String.toList

/-- The four parts with bars between them, on one line that cannot be read as other
parts. -/
structure HasParts (line sequence : List Char) (letter : Char) (tag message : List Char) :
    Prop where
  line_eq : line = sequence ++ '|' :: letter :: '|' :: (tag ++ '|' :: message)
  oneLine : OneLine line
  numeral : sequence ≠ [] ∧ Throughout isDigit sequence
  letter_mem : letter ∈ letters
  tag_mem : tag ∈ tags
  tag_unbarred : '|' ∉ tag
  cut_eq : cutAtBars 3 line = [sequence, [letter], tag, message]

theorem hasParts_of_oneLine (number : Nat) (severity : Severity) (category : Category)
    {message : List Char} (oneLine : OneLine message) :
    HasParts (digitsOfNatural number ++ '|' :: severity.letter :: '|' ::
        (category.tag.toList ++ '|' :: message))
      (digitsOfNatural number) severity.letter category.tag.toList message := by
  have digits := throughout_digitsOfNatural number
  have sequenceUnbarred : '|' ∉ digitsOfNatural number :=
    fun member => absurd (digits _ member) (by decide)
  have letterUnbarred : '|' ∉ [severity.letter] := by cases severity <;> decide
  have letterOneLine : severity.letter ≠ '\n' := by cases severity <;> decide
  have tagUnbarred : '|' ∉ category.tag.toList := by cases category <;> decide
  have tagOneLine : OneLine category.tag.toList := by cases category <;> decide
  refine ⟨rfl, ?_, ⟨digitsOfNatural_ne_nil number, digits⟩, ?_, ?_, tagUnbarred, ?_⟩
  · simp [digits.oneLine (by decide), letterOneLine, tagOneLine, oneLine]
  · cases severity <;> decide
  · cases category <;> decide
  · rw [cutAtBars_append sequenceUnbarred]
    exact congrArg _ ((cutAtBars_append letterUnbarred 1 _).trans
      (congrArg _ (cutAtBars_append tagUnbarred 0 message)))

theorem toList_line (number : Nat) (severity : Severity) (tag message : String) :
    (line number severity tag message).toList =
      digitsOfNatural number ++ '|' :: severity.letter :: '|' ::
        (tag.toList ++ '|' :: message.toList) := by
  simp only [line, String.toList_append, Nat.toString_eq_repr, Nat.toList_repr]
  simp [digitsOfNatural, toString]

/-! ## Backends

What a backend takes out of a line on its way to the log it takes out of the message. -/

def isVisible (character : Char) : Bool :=
  ' ' ≤ character && character ≤ '~'

/-- A backend may leave out characters, but none in front of the first that cannot be seen. -/
structure Backend.LeavesOut (backend : Backend) : Prop where
  sublist (text : List Char) : (backend.shown text).Sublist text
  visible {front : List Char} (visible : Throughout isVisible front) (rest : List Char) :
    backend.shown (front ++ rest) = front ++ backend.shown rest

theorem Backend.leavesOut_of_id {backend : Backend} (unchanged : backend.shown = id) :
    backend.LeavesOut where
  sublist text := by
    rw [unchanged]
    exact List.Sublist.refl text
  visible _ rest := by rw [unchanged, id, id]

theorem isPlain_of_isVisible {character : Char} (visible : isVisible character = true) :
    isPlain character = true := by
  simp only [isVisible, Bool.and_eq_true, decide_eq_true_eq] at visible
  have noDelete : character ≠ '\x7F' := by
    rintro rfl
    exact absurd visible.2 (by decide)
  simp [isPlain, visible.1, noDelete]

theorem Backend.leavesOut_of_plain {backend : Backend} (strips : backend.shown = plain) :
    backend.LeavesOut where
  sublist text := by
    rw [strips]
    exact plainFrom_sublist none text
  visible visible rest := by
    rw [strips]
    exact plain_append (fun _ member => isPlain_of_isVisible (visible _ member)) rest

variable {backend : Backend}

theorem Backend.LeavesOut.oneLine (leavesOut : backend.LeavesOut) {text : List Char}
    (oneLine : OneLine text) : OneLine (backend.shown text) :=
  fun member => oneLine ((leavesOut.sublist text).mem member)

theorem Backend.LeavesOut.toList_line (leavesOut : backend.LeavesOut) (number : Nat)
    (entry : Entry) :
    (backend.line number entry).toList =
      digitsOfNatural number ++ '|' :: entry.severity.letter :: '|' ::
        (entry.category.tag.toList ++ '|' :: backend.shown entry.message.toList) := by
  have front : Throughout isVisible (digitsOfNatural number ++ '|' :: entry.severity.letter ::
      '|' :: (entry.category.tag.toList ++ ['|'])) := by
    have digits : Throughout isVisible (digitsOfNatural number) :=
      (throughout_digitsOfNatural number).of_digits (by decide)
    have letter : isVisible entry.severity.letter = true := by cases entry.severity <;> decide
    have tag : Throughout isVisible entry.category.tag.toList := by
      cases entry.category <;> decide
    have bar : isVisible '|' = true := by decide
    simp [digits, letter, tag, bar]
  have whole := leavesOut.visible front entry.message.toList
  rw [Backend.line, String.toList_ofList, Log.toList_line]
  simpa using whole

end DeskCalculator.Log
