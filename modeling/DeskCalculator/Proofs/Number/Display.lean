import DeskCalculator.Function
import DeskCalculator.Proofs.Number.Layout
import DeskCalculator.Proofs.Number.Pattern
import DeskCalculator.Proofs.Number.Shortest
import DeskCalculator.Proofs.Text.Blank

/-! Either layout writes the value of the shortest decimal of a number, and that decimal
is rounded to the number. So what the display shows can be read again without any
loss. -/

namespace DeskCalculator.Number

open Text

/-! A display is made of few characters, and none of them is blank. So it is read from
end to end. -/

/-- The characters of displays. -/
def shownCharacters : List Char :=
  "0123456789.-ENaInfity".toList

theorem throughout_shown_of_digits {text : List Char} (all : Throughout isDigit text) :
    Throughout shownCharacters.contains text :=
  all.of_digits (by decide)

theorem throughout_pointed {whole fraction : List Char} (wholeAll : Throughout isDigit whole)
    (fractionAll : Throughout isDigit fraction) :
    Throughout shownCharacters.contains (pointed whole fraction) := by
  rw [pointed_eq, throughout_append, throughout_cons]
  exact ⟨throughout_shown_of_digits wholeAll, by decide,
    throughout_shown_of_digits (throughout_shownFraction fractionAll)⟩

theorem throughout_digitsOfInteger (power : Int) :
    Throughout shownCharacters.contains (digitsOfInteger power) := by
  cases power with
  | ofNat value => exact throughout_shown_of_digits (throughout_digitsOfNatural value)
  | negSucc value =>
      rw [digitsOfInteger, throughout_cons]
      exact ⟨by decide, throughout_shown_of_digits (throughout_digitsOfNatural (value + 1))⟩

theorem throughout_scientificText (decimal : Decimal) :
    Throughout shownCharacters.contains (scientificText decimal) := by
  rw [scientificText, throughout_append, throughout_cons]
  exact ⟨throughout_pointed (throughout_take decimal 1) (throughout_drop decimal 1),
    by decide, throughout_digitsOfInteger _⟩

theorem throughout_signText (value : Float) :
    Throughout shownCharacters.contains (signText value) := by
  unfold signText
  split <;> decide

/-! What is shown depends on where the code lies: below that of infinity, on it, or
above it. -/

section

variable {value : Float}

theorem displayText_of_lt (finite : codeOf value < infinityCode) :
    displayText value = signText value ++
      (if isPositional (codeOf value) then positionalText (shortestDecimal (codeOf value))
      else scientificText (shortestDecimal (codeOf value))) := by
  have number : isNotANumber value = false := decide_eq_false (Nat.lt_asymm finite)
  have small : (codeOf value == infinityCode) = false :=
    beq_eq_false_iff_ne.2 (Nat.ne_of_lt finite)
  rw [displayText, number]
  simp only [small, Bool.false_eq_true, if_false]

theorem displayText_of_eq (infinite : codeOf value = infinityCode) :
    displayText value = signText value ++ "Infinity".toList := by
  have number : isNotANumber value = false := by
    rw [isNotANumber, infinite]
    exact decide_eq_false (Nat.lt_irrefl infinityCode)
  rw [displayText, number, infinite]
  rfl

theorem displayText_of_gt (beyond : infinityCode < codeOf value) :
    displayText value = "NaN".toList := by
  have nan : isNotANumber value = true := decide_eq_true beyond
  rw [displayText, nan, if_pos rfl]

end

theorem throughout_displayText (value : Float) :
    Throughout shownCharacters.contains (displayText value) := by
  rcases Nat.lt_trichotomy (codeOf value) infinityCode with finite | infinite | beyond
  · rw [displayText_of_lt finite, throughout_append]
    refine ⟨throughout_signText value, ?_⟩
    split
    · exact throughout_pointed (throughout_wholeText _) (throughout_fractionText _)
    · exact throughout_scientificText _
  · rw [displayText_of_eq infinite, throughout_append]
    exact ⟨throughout_signText value, by decide⟩
  · rw [displayText_of_gt beyond]
    decide

theorem unbroken_displayText (value : Float) : Unbroken (displayText value) := by
  have each : Unbroken shownCharacters := by decide
  exact fun character member =>
    each character (List.contains_iff_mem.mp (throughout_displayText value character member))

/-! A display starts with a digit, a minus sign, or a word that does not start with the
letter in front of an exponent. -/

theorem notAhead_pointed {whole : List Char} (all : Throughout isDigit whole)
    (some : whole ≠ []) (fraction rest : List Char) :
    NotAhead (· == 'E') (pointed whole fraction ++ rest) := by
  have each : Throughout (· != 'E') whole := all.of_digits (by decide)
  rcases List.exists_cons_of_ne_nil some with ⟨first, tail, rfl⟩
  have other := ((throughout_cons _ _).mp each).1
  exact (notAhead_cons _ _).mpr (Bool.not_eq_true' _ ▸ other)

theorem notAhead_layout (decimal : Decimal) (positional : Bool) :
    NotAhead (· == 'E')
      (if positional then positionalText decimal else scientificText decimal) := by
  cases positional with
  | true =>
      have stops := notAhead_pointed (throughout_wholeText decimal) (wholeText_ne_nil decimal)
        decimal.fractionText []
      rwa [List.append_nil] at stops
  | false =>
      have first : decimal.digitText.take 1 ≠ [] := by
        simp [digitText_ne_nil]
      exact notAhead_pointed (throughout_take decimal 1) first _ _

theorem notAhead_signed (value : Float) {rest : List Char} (stops : NotAhead (· == 'E') rest) :
    NotAhead (· == 'E') (signText value ++ rest) := by
  unfold signText
  split
  · exact (notAhead_cons _ _).mpr (by decide)
  · exact stops

theorem notAhead_displayText (value : Float) : NotAhead (· == 'E') (displayText value) := by
  rcases Nat.lt_trichotomy (codeOf value) infinityCode with finite | infinite | beyond
  · rw [displayText_of_lt finite]
    exact notAhead_signed value (notAhead_layout _ _)
  · rw [displayText_of_eq infinite]
    exact notAhead_signed value (by decide)
  · rw [displayText_of_gt beyond]
    decide

theorem ofText?_infinity (negative : Bool) :
    ofText? ((if negative then ['-'] else []) ++ "Infinity".toList) =
      some (ofCode negative infinityCode) := by
  cases negative <;> decide +kernel

theorem writes_layout (code : Nat) :
    Writes
      (if isPositional code then positionalText (shortestDecimal code)
      else scientificText (shortestDecimal code)) (shortestDecimal code) := by
  split
  · exact writes_positionalText _
  · exact writes_scientificText _

/-- Every double is read back, infinities and not-a-number included. -/
theorem ofText?_displayText (value : Float) : ofText? (displayText value) = some value := by
  have whole := ofCode_codeOf value
  rcases Nat.lt_trichotomy (codeOf value) infinityCode with finite | infinite | beyond
  · have code := code_shortestDecimal finite
    have writes := writes_layout (codeOf value)
    rw [displayText_of_lt finite, signText, writes.ofText?_eq, code, whole]
  · rw [displayText_of_eq infinite, signText, ofText?_infinity, ← infinite, whole]
  · rw [displayText_of_gt beyond, eq_notANumber beyond]
    decide +kernel

theorem operand_displayText (value : Float) :
    Function.operand (displayText value) = .ok value := by
  rw [Function.operand, (unbroken_displayText value).trim_eq_self, ofText?_displayText]

/-- Over all patterns of 64 bits: what is shown for a number is read as that very
pattern, and what is shown for a not-a-number is read as one. -/
theorem operand_displayText_ofBits (bits : UInt64) :
    ∃ back : Float, Function.operand (displayText (Float.ofBits bits)) = .ok back ∧
      if infinityCode < bits.toNat % signCode then isNotANumber back = true
      else back.toBits = bits := by
  refine ⟨Float.ofBits bits, operand_displayText _, ?_⟩
  split
  · rename_i beyond
    exact isNotANumber_ofBits beyond
  · rename_i number
    exact toBits_ofBits (Nat.le_of_not_lt number)

end DeskCalculator.Number
