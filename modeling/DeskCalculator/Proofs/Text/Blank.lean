import DeskCalculator.Proofs.Text.Run

/-! Trimming leaves a text alone if there is no blank at its ends. -/

namespace DeskCalculator.Text

theorem toLower_of_isBlank {character : Char} (blank : isBlank character = true) :
    character.toLower = character := by
  refine dif_neg fun letter => ?_
  have lower : 65 ≤ character.toNat := UInt32.le_iff_toNat_le.mp letter.1
  have upper : character.toNat ≤ 90 := UInt32.le_iff_toNat_le.mp letter.2
  simp only [isBlank, inRanges, blankRanges, List.any_cons, List.any_nil, Bool.or_false,
    Bool.or_eq_true, Bool.and_eq_true, decide_eq_true_eq] at blank
  omega

variable {text : List Char}

theorem trim_eq_self (front : NotAhead isBlank text)
    (back : NotAhead isBlank text.reverse) : trim text = text := by
  have start : trimStart text = text := front.dropWhile_eq_self
  rw [trim, start, trimEnd, trimStart, back.dropWhile_eq_self, List.reverse_reverse]

theorem throughout_trim {property : Char → Bool}
    (all : Throughout property text) : Throughout property (trim text) := by
  intro character member
  have inFront : character ∈ trimStart (trimStart text).reverse := List.mem_reverse.mp member
  have inside := List.mem_reverse.mp ((List.dropWhile_sublist _).mem inFront)
  exact all character ((List.dropWhile_sublist _).mem inside)

theorem trimEnd_append (text : List Char) :
    trimEnd text ++ (text.reverse.takeWhile isBlank).reverse = text := by
  have ended : text.reverse.takeWhile isBlank ++ trimStart text.reverse = text.reverse :=
    List.takeWhile_append_dropWhile
  have turned := congrArg List.reverse ended
  rwa [List.reverse_append, List.reverse_reverse] at turned

/-- Trimming leaves no blank at the ends. -/
theorem notAhead_trim (text : List Char) :
    NotAhead isBlank (trim text) ∧ NotAhead isBlank (trim text).reverse := by
  constructor
  · have front : NotAhead isBlank (trimStart text) := notAhead_dropWhile text
    rw [← trimEnd_append (trimStart text)] at front
    exact front.of_append
  · rw [trim, trimEnd, List.reverse_reverse]
    exact notAhead_dropWhile _

@[simp] theorem trim_trim (text : List Char) : trim (trim text) = trim text :=
  trim_eq_self (notAhead_trim text).1 (notAhead_trim text).2

theorem trimStart_concat {last : Char} (notBlank : isBlank last = false) (text : List Char) :
    trimStart (text ++ [last]) = trimStart text ++ [last] := by
  rw [trimStart, List.dropWhile_append, trimStart]
  split
  · rename_i empty
    simp [List.isEmpty_iff.mp empty, notBlank]
  · rfl

/-- A last character that is not blank stays, and only the blanks in front go. -/
theorem trim_concat {last : Char} (notBlank : isBlank last = false) (text : List Char) :
    trim (text ++ [last]) = trimStart text ++ [last] := by
  have back : NotAhead isBlank (trimStart text ++ [last]).reverse := by
    simp [notBlank]
  rw [trim, trimStart_concat notBlank, trimEnd, trimStart, back.dropWhile_eq_self,
    List.reverse_reverse]

/-- A first character that is not blank stays, and only the blanks at the end go. -/
theorem trim_cons {first : Char} (notBlank : isBlank first = false) (text : List Char) :
    trim (first :: text) = first :: trimEnd text := by
  have front : NotAhead isBlank (first :: text) := (notAhead_cons _ _).mpr notBlank
  rw [trim, trimStart, front.dropWhile_eq_self, trimEnd, List.reverse_cons,
    trimStart_concat notBlank, List.reverse_concat, trimEnd]

theorem Throughout.reverse {property : Char → Bool} (all : Throughout property text) :
    Throughout property text.reverse :=
  fun character member => all character (List.mem_reverse.mp member)

/-- Trimming takes blanks off the two ends of a text, and nothing else. -/
theorem exists_trim (text : List Char) :
    ∃ front back, Throughout isBlank front ∧ Throughout isBlank back ∧
      text = front ++ (trim text ++ back) := by
  have started : text.takeWhile isBlank ++ trimStart text = text :=
    List.takeWhile_append_dropWhile
  refine ⟨text.takeWhile isBlank, ((trimStart text).reverse.takeWhile isBlank).reverse,
    throughout_takeWhile text, (throughout_takeWhile _).reverse, ?_⟩
  rw [trim, trimEnd_append, started]

/-- The text has no blank in it. -/
def Unbroken (text : List Char) : Prop :=
  Throughout (fun character => !isBlank character) text

instance (text : List Char) : Decidable (Unbroken text) :=
  inferInstanceAs (Decidable (Throughout (fun character => !isBlank character) text))

theorem Unbroken.notAhead (unbroken : Unbroken text) : NotAhead isBlank text := by
  intro character member
  simpa using unbroken character (List.mem_of_mem_head? member)

theorem Unbroken.reverse (unbroken : Unbroken text) : Unbroken text.reverse := by
  intro character member
  exact unbroken character (List.mem_reverse.1 member)

theorem Unbroken.trim_eq_self (unbroken : Unbroken text) : trim text = text :=
  Text.trim_eq_self unbroken.notAhead unbroken.reverse.notAhead

end DeskCalculator.Text
