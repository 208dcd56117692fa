import DeskCalculator.Proofs.Text.Run
import DeskCalculator.Text.LowerCase
import DeskCalculator.Text.Word

/-! A word of ASCII characters and root signs is the lower case of few texts: beside ASCII
characters and root signs they have the kelvin sign in them at most. So of the capitals
outside ASCII, no other can make a difference to whether a text is such a word. -/

namespace DeskCalculator.Text

/-- The characters that words can be made of. -/
def isWordCharacter (character : Char) : Bool :=
  character.toNat < 0x80 || character == '√'

/-- A character whose lower case is made of such characters. -/
def isSpelling (character : Char) : Bool :=
  isWordCharacter character || character == '\u212a'

variable {character : Char} {text word : List Char}

/-! ## The table -/

/-- The small letters of a range are characters, and not in any word. -/
structure CapitalRange.Foreign (range : CapitalRange) : Prop where
  small : 0x80 ≤ range.small
  valid : range.small + (range.last - range.first) < 0xD800 ∨
    0xDFFF < range.small ∧ range.small + (range.last - range.first) < 0x110000
  noRoot : range.small + (range.last - range.first) < '√'.toNat ∨ '√'.toNat < range.small

instance (range : CapitalRange) : Decidable range.Foreign :=
  decidable_of_iff (0x80 ≤ range.small ∧
      (range.small + (range.last - range.first) < 0xD800 ∨
        0xDFFF < range.small ∧ range.small + (range.last - range.first) < 0x110000) ∧
      (range.small + (range.last - range.first) < '√'.toNat ∨ '√'.toNat < range.small))
    ⟨fun ⟨small, valid, noRoot⟩ => ⟨small, valid, noRoot⟩,
      fun ⟨small, valid, noRoot⟩ => ⟨small, valid, noRoot⟩⟩

/-- The kelvin sign is a range of its own. -/
theorem foreign_of_mem_capitals : ∀ range ∈ capitals,
    range = ⟨0x212A, 0x212A, 1, 0x6B⟩ ∨ range.Foreign := by
  decide +kernel

theorem CapitalRange.bounds_of_contains {range : CapitalRange}
    (inside : range.contains character = true) :
    range.first ≤ character.toNat ∧ character.toNat ≤ range.last := by
  simp only [contains, Bool.and_eq_true, decide_eq_true_eq] at inside
  exact inside.1

theorem CapitalRange.Foreign.not_isWordCharacter {range : CapitalRange}
    (foreign : range.Foreign) (inside : range.contains character = true) :
    isWordCharacter (range.smallLetter character) = false := by
  rcases range.bounds_of_contains inside with ⟨lower, upper⟩
  rcases foreign with ⟨small, valid, noRoot⟩
  generalize code : range.small + (character.toNat - range.first) = letter
  have isValid : letter.isValidChar := by
    simp only [Nat.isValidChar]
    omega
  have toNat : (Char.ofNat letter).toNat = letter := by
    rw [Char.ofNat, dif_pos isValid]
    rfl
  have different : Char.ofNat letter ≠ '√' := by
    intro same
    have root := congrArg Char.toNat same
    rw [toNat] at root
    omega
  rw [isWordCharacter, CapitalRange.smallLetter, code, toNat]
  simp only [Bool.or_eq_false_iff, decide_eq_false_iff_not, beq_eq_false_iff_ne]
  exact ⟨by omega, different⟩

/-! ## Characters -/

theorem smallLetters_of_isSpelling (spelling : isSpelling character = true) :
    smallLetters character = lowerCase character := by
  simp only [isSpelling, isWordCharacter, Bool.or_eq_true, decide_eq_true_eq,
    beq_iff_eq] at spelling
  rcases spelling with (ascii | rfl) | rfl
  · have different {other : Char} (large : ¬other.toNat < 0x80) :
        (character == other) = false := by
      rw [beq_eq_false_iff_ne]
      rintro rfl
      exact large ascii
    rw [smallLetters, if_pos ascii, lowerCase, different (by decide), different (by decide)]
    rfl
  · decide
  · decide

theorem lowerCase_of_not_isSpelling (odd : isSpelling character = false) :
    ∃ small ∈ lowerCase character, isWordCharacter small = false := by
  simp only [isSpelling, Bool.or_eq_false_iff, isWordCharacter, decide_eq_false_iff_not,
    beq_eq_false_iff_ne] at odd
  rcases odd with ⟨⟨large, notRoot⟩, notKelvin⟩
  by_cases dotted : character = '\u0130'
  · rw [dotted]
    exact ⟨'\u0307', by decide, by decide⟩
  · have same : character.toLower = character := by
      refine dif_neg fun letter => large ?_
      have upper : character.toNat ≤ 90 := UInt32.le_iff_toNat_le.mp letter.2
      omega
    refine ⟨character, ?_, ?_⟩
    · simp [lowerCase, notKelvin, dotted, same]
    · simp [isWordCharacter, large, notRoot]

theorem smallLetters_of_not_isSpelling (odd : isSpelling character = false) :
    ∃ small ∈ smallLetters character, isWordCharacter small = false := by
  simp only [isSpelling, Bool.or_eq_false_iff, isWordCharacter, decide_eq_false_iff_not,
    beq_eq_false_iff_ne] at odd
  rcases odd with ⟨⟨large, notRoot⟩, notKelvin⟩
  unfold smallLetters
  rw [if_neg large]
  split
  · exact ⟨'\u0307', by simp, by decide⟩
  · split
    · rename_i range found
      have inside := List.find?_some found
      rcases foreign_of_mem_capitals range (List.mem_of_find?_eq_some found) with kelvin | foreign
      · subst kelvin
        have bounds := CapitalRange.bounds_of_contains inside
        have code : character.toNat = ('\u212a').toNat := Nat.le_antisymm bounds.2 bounds.1
        exact absurd (Char.toNat_inj.mp code) notKelvin
      · exact ⟨_, List.mem_singleton_self _, foreign.not_isWordCharacter inside⟩
    · exact ⟨character, List.mem_singleton_self _, by simp [isWordCharacter, large, notRoot]⟩

/-! ## Texts -/

variable {final : List Char → List Char → Bool}

theorem loweredBehind_of_isSpelling (spelled : Throughout isSpelling text)
    (before : List Char) : loweredBehind final before text = text.flatMap lowerCase := by
  induction text generalizing before with
  | nil => rfl
  | cons character rest induction =>
      rcases (throughout_cons _ _).mp spelled with ⟨spelling, others⟩
      have noSigma : (character == 'Σ') = false :=
        beq_eq_false_of_property spelling (by decide)
      rw [loweredBehind, induction others, noSigma, smallLetters_of_isSpelling spelling,
        List.flatMap_cons]
      rfl

theorem exists_mem_loweredBehind {odd : Char} (member : odd ∈ text)
    (isOdd : isSpelling odd = false) (before : List Char) :
    ∃ small ∈ loweredBehind final before text, isWordCharacter small = false := by
  induction text generalizing before with
  | nil => cases member
  | cons character rest induction =>
      rw [loweredBehind]
      rcases List.mem_cons.mp member with rfl | member
      · by_cases sigma : odd = 'Σ'
        · subst sigma
          cases final before rest with
          | true => exact ⟨'ς', by simp, by decide⟩
          | false => exact ⟨'σ', by simp, by decide⟩
        · rcases smallLetters_of_not_isSpelling isOdd with ⟨small, member, foreign⟩
          exact ⟨small, by simp [sigma, member], foreign⟩
      · rcases induction member (character :: before) with ⟨small, member, foreign⟩
        exact ⟨small, List.mem_append_right _ member, foreign⟩

/-- The few characters whose lower case is told apart are enough to recognise words. -/
theorem lowered_eq_iff (plain : Throughout isWordCharacter word) :
    lowered final text = word ↔ text.flatMap lowerCase = word := by
  by_cases spelled : Throughout isSpelling text
  · rw [lowered, loweredBehind_of_isSpelling spelled]
  · have some : ∃ odd ∈ text, isSpelling odd = false := by
      simpa [Throughout] using spelled
    rcases some with ⟨odd, member, isOdd⟩
    have foreign {letters : List Char} (holds : ∃ small ∈ letters,
        isWordCharacter small = false) : letters ≠ word := by
      rintro rfl
      rcases holds with ⟨small, member, foreign⟩
      cases foreign.symm.trans (plain small member)
    refine iff_of_false (foreign (exists_mem_loweredBehind member isOdd [])) (foreign ?_)
    rcases lowerCase_of_not_isSpelling isOdd with ⟨small, inside, isForeign⟩
    exact ⟨small, List.mem_flatMap_of_mem member inside, isForeign⟩

end DeskCalculator.Text
