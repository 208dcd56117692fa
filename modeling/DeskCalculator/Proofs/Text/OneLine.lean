import DeskCalculator.Proofs.Text.Digit
import DeskCalculator.Text.Plain
import DeskCalculator.Text.Quoted

/-! A text is on one line if it has no line feed in it. Quoting puts any text on one line, and
taking control characters out of a line leaves a line. -/

namespace DeskCalculator.Text

def OneLine (text : List Char) : Prop :=
  '\n' ∉ text

instance (text : List Char) : Decidable (OneLine text) :=
  inferInstanceAs (Decidable ('\n' ∉ text))

variable {text : List Char}

@[simp] theorem oneLine_nil : OneLine [] :=
  List.not_mem_nil

@[simp] theorem oneLine_cons (character : Char) (rest : List Char) :
    OneLine (character :: rest) ↔ character ≠ '\n' ∧ OneLine rest := by
  simp [OneLine, eq_comm]

@[simp] theorem oneLine_append (left right : List Char) :
    OneLine (left ++ right) ↔ OneLine left ∧ OneLine right := by
  simp [OneLine]

theorem Throughout.oneLine {property : Char → Bool} (all : Throughout property text)
    (odd : property '\n' = false) : OneLine text := by
  intro member
  cases odd.symm.trans (all _ member)

@[simp] theorem oneLine_repr (value : Nat) : OneLine value.repr.toList := by
  rw [Nat.toList_repr]
  exact (throughout_digitsOfNatural value).oneLine (by decide)

/-- The text begins with a character that is no digit. -/
def Worded (text : List Char) : Prop :=
  text.head?.any (fun first => !isDigit first) = true

instance (text : List Char) : Decidable (Worded text) :=
  inferInstanceAs (Decidable (text.head?.any (fun first => !isDigit first) = true))

theorem Worded.append (worded : Worded text) (rest : List Char) : Worded (text ++ rest) := by
  cases text with
  | nil => cases worded
  | cons first text => exact worded

/-! ## Quoting -/

theorem oneLine_toDigits (value : Nat) : OneLine (Nat.toDigits 16 value) := by
  have digit (value : Nat) : OneLine [value.digitChar] :=
    (oneLine_cons _ _).mpr ⟨Nat.digitChar_ne '\n' (by decide), oneLine_nil⟩
  induction value using Nat.strongRecOn with
  | ind value induction =>
      rw [Nat.toDigits_eq_if (by decide)]
      split
      · exact digit value
      · rename_i large
        exact (oneLine_append _ _).mpr ⟨induction (value / 16) (by omega), digit _⟩

theorem oneLine_escaped {mark : Char} (marks : mark ≠ '\n') (character : Char) :
    OneLine (escaped mark character) := by
  unfold escaped
  split
  · rename_i special
    simp only [Bool.or_eq_true, beq_iff_eq] at special
    rcases special with rfl | rfl
    · exact (oneLine_cons _ _).mpr ⟨by decide, (oneLine_cons _ _).mpr ⟨marks, oneLine_nil⟩⟩
    · decide
  split
  · decide
  split
  · decide
  split
  · decide
  rename_i noFeed
  split
  · decide
  split
  · rw [oneLine_append, oneLine_append]
    exact ⟨⟨by decide, oneLine_toDigits _⟩, by decide⟩
  · exact (oneLine_cons _ _).mpr ⟨by simpa using noFeed, oneLine_nil⟩

@[simp] theorem oneLine_quoted (text : List Char) : OneLine (quoted text).toList := by
  rw [quoted, String.toList_ofList, oneLine_append, oneLine_cons]
  refine ⟨⟨by decide, ?_⟩, by decide⟩
  intro member
  rcases List.mem_flatMap.mp member with ⟨character, -, feed⟩
  exact oneLine_escaped (by decide) character feed

@[simp] theorem oneLine_quotedCharacter (character : Char) :
    OneLine (quotedCharacter character).toList := by
  rw [quotedCharacter, String.toList_ofList, oneLine_append, oneLine_cons]
  exact ⟨⟨by decide, oneLine_escaped (by decide) character⟩, by decide⟩

/-! ## Plain text -/

/-- A character is left out or kept, inside of a sequence and outside of any. -/
theorem plainFrom_cons (part : Option EscapePart) (character : Char) (rest : List Char) :
    (∃ after, plainFrom part (character :: rest) = plainFrom after rest) ∨
      ∃ after, plainFrom part (character :: rest) = character :: plainFrom after rest := by
  cases part with
  | none =>
      by_cases starts : character = escape
      · exact .inl ⟨some .opening, by simp [plainFrom, starts]⟩
      · cases shown : isPlain character with
        | true => exact .inr ⟨none, by simp [plainFrom, starts, shown]⟩
        | false => exact .inl ⟨none, by simp [plainFrom, starts, shown]⟩
  | some part =>
      cases next : part.next character with
      | some after => exact .inl ⟨some after, by simp [plainFrom, next]⟩
      | none =>
          cases breaks : isBreak character with
          | true => exact .inr ⟨none, by simp [plainFrom, next, breaks]⟩
          | false => exact .inl ⟨none, by simp [plainFrom, next, breaks]⟩

theorem plainFrom_sublist (part : Option EscapePart) (text : List Char) :
    (plainFrom part text).Sublist text := by
  induction text generalizing part with
  | nil => simp [plainFrom]
  | cons character rest induction =>
      rcases plainFrom_cons part character rest with ⟨after, dropped⟩ | ⟨after, kept⟩
      · exact dropped ▸ (induction after).cons character
      · exact kept ▸ (induction after).cons_cons character

theorem plain_append {left : List Char} (alreadyPlain : Throughout isPlain left)
    (right : List Char) : plain (left ++ right) = left ++ plain right := by
  induction left with
  | nil => rfl
  | cons character left induction =>
      rw [throughout_cons] at alreadyPlain
      have noEscape : (character == escape) = false :=
        beq_eq_false_of_property alreadyPlain.1 (by decide)
      have others := induction alreadyPlain.2
      simp only [Text.plain] at others
      simp only [Text.plain, List.cons_append, plainFrom, noEscape, alreadyPlain.1, others,
        if_true, Bool.false_eq_true, if_false]

end DeskCalculator.Text
