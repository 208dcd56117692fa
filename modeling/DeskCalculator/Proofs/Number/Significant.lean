import DeskCalculator.Proofs.Number.Display
import DeskCalculator.Proofs.Number.Grid
import Mathlib.Data.List.DropRight

/-! The zeros at the ends of a numeral, its point and its exponent are a matter of layout. What
is left are the digits of a decimal, and no text that is read as a number has fewer of them
than its display. -/

namespace DeskCalculator.Number

open Text Decimal

/-- The mark in front of an exponent. -/
def isMark (character : Char) : Bool :=
  character == 'e' || character == 'E'

/-- The digits in front of the exponent, without the zeros at both ends. -/
def significantDigits (text : List Char) : List Char :=
  let mantissa := (text.takeWhile fun character => !isMark character).filter isDigit
  (mantissa.dropWhile (· == '0')).rdropWhile (· == '0')

example : significantDigits "-0.0250".toList = "25".toList := by decide

/-! ## Zeros at the ends -/

theorem dropWhile_zeros {digits : List Char} (all : Throughout isDigit digits)
    (some : naturalOfDigits digits ≠ 0) :
    digits.dropWhile (· == '0') = digitsOfNatural (naturalOfDigits digits) := by
  induction digits with
  | nil => exact absurd rfl some
  | cons digit rest induction =>
      by_cases zero : digit = '0'
      · subst zero
        have same : naturalOfDigits ('0' :: rest) = naturalOfDigits rest :=
          naturalOfDigits_zeros_append 1 rest
        rw [same] at some ⊢
        rw [List.dropWhile_cons_of_pos (by decide)]
        exact induction ((throughout_cons _ _).mp all).2 some
      · have first : (digit :: rest).head? ≠ .some '0' := by simpa using zero
        rw [List.dropWhile_cons_of_neg (by simpa using zero),
          digitsOfNatural_naturalOfDigits all (List.cons_ne_nil _ _) first]

theorem rdropWhile_zeros {decimal : Decimal} (some : decimal.digits ≠ 0) :
    decimal.digitText.rdropWhile (· == '0') = decimal.stripped.digitText := by
  induction decimal using Decimal.stripped_induction with
  | zero decimal none => exact absurd none some
  | further digits exponent nonzero stripped induction =>
      have large : 10 ≤ 10 * digits := by omega
      have written : digitsOfNatural (10 * digits) = digitsOfNatural digits ++ ['0'] := by
        rw [digitsOfNatural, Nat.toDigits_of_base_le (by decide) large, Nat.mul_mod_right,
          Nat.mul_div_cancel_left digits (by decide)]
        rfl
      rw [stripped, digitText, written, List.rdropWhile_concat_pos _ _ _ (by decide)]
      exact induction nonzero
  | last decimal ends stripped =>
      rw [stripped, List.rdropWhile_eq_self_iff]
      intro nonempty zero
      apply getLast?_digitText ends
      rw [List.getLast?_eq_some_getLast nonempty, beq_iff_eq.mp zero]

theorem withoutZeros_eq {digits : List Char} {decimal : Decimal}
    (all : Throughout isDigit digits) (number : naturalOfDigits digits = decimal.digits)
    (some : decimal.digits ≠ 0) :
    (digits.dropWhile (· == '0')).rdropWhile (· == '0') = decimal.stripped.digitText := by
  rw [dropWhile_zeros all (number ▸ some), number]
  exact rdropWhile_zeros some

/-! ## Numerals -/

theorem filter_isDigit {digits : List Char} (all : Throughout isDigit digits) :
    digits.filter isDigit = digits :=
  List.filter_eq_self.mpr all

theorem digits_ofLiteral {literal : List Char} (numeral : IsNumeral literal) :
    (Decimal.ofLiteral literal).digits = naturalOfDigits (literal.filter isDigit) := by
  have pointed {whole fraction : List Char} (wholeAll : Throughout isDigit whole)
      (fractionAll : Throughout isDigit fraction) :
      (Decimal.ofLiteral (whole ++ '.' :: fraction)).digits =
        naturalOfDigits ((whole ++ '.' :: fraction).filter isDigit) := by
    have stops := notAhead_digit_point fraction
    have point : isDigit '.' = false := by decide
    simp only [Decimal.ofLiteral, wholeAll.takeWhile_append stops, wholeAll.dropWhile_append stops,
      List.drop_succ_cons, List.drop_zero, List.filter_append, List.filter_cons, point,
      Bool.false_eq_true, if_false, filter_isDigit wholeAll, filter_isDigit fractionAll]
  cases numeral with
  | whole all =>
      have taken := all.takeWhile_append notAhead_nil
      have dropped := all.dropWhile_append notAhead_nil
      rw [List.append_nil] at taken dropped
      simp [Decimal.ofLiteral, taken, dropped, filter_isDigit all]
  | pointed wholeAll _ fractionAll => exact pointed wholeAll fractionAll
  | fraction all => exact pointed throughout_nil all

/-- The character is neither a digit nor the mark of an exponent, as signs and blanks are. -/
def isSilent (character : Char) : Bool :=
  !isDigit character && !isMark character

theorem filter_isDigit_silent {text : List Char} (silent : Throughout isSilent text) :
    text.filter isDigit = [] := by
  rw [List.filter_eq_nil_iff]
  intro character member digit
  have odd := silent character member
  simp [isSilent, digit] at odd

theorem throughout_unmarked_of_isNumeral {literal : List Char} (numeral : IsNumeral literal) :
    Throughout (fun character => !isMark character) literal := by
  have digitUnmarked {digits : List Char} (all : Throughout isDigit digits) :
      Throughout (fun character => !isMark character) digits := all.of_digits (by decide)
  cases numeral with
  | whole all => exact digitUnmarked all
  | pointed wholeAll _ fractionAll =>
      exact (throughout_append _ _).mpr ⟨digitUnmarked wholeAll,
        (throughout_cons _ _).mpr ⟨by decide, digitUnmarked fractionAll⟩⟩
  | fraction all => exact (throughout_cons _ _).mpr ⟨by decide, digitUnmarked all⟩

theorem throughout_unmarked_of_silent {text : List Char} (silent : Throughout isSilent text) :
    Throughout (fun character => !isMark character) text := by
  intro character member
  have odd := silent character member
  simp only [isSilent, Bool.and_eq_true] at odd
  exact odd.2

/-- What stands around a numeral has no say, and the exponent has none. -/
theorem significantDigits_eq {front magnitude back : List Char} {decimal : Decimal}
    (frontSilent : Throughout isSilent front) (backSilent : Throughout isSilent back)
    (read : decimal? magnitude = some decimal) (nonzero : decimal.digits ≠ 0) :
    significantDigits (front ++ (magnitude ++ back)) = decimal.stripped.digitText := by
  rcases exists_of_decimal? read with ⟨literal, rest, power, rfl, numeral, exponent, rfl⟩
  let unmarked := fun character => !isMark character
  have ending : ((rest ++ back).takeWhile unmarked).filter isDigit = [] := by
    rcases eq_nil_or_mark_of_exponent? exponent with rfl | ⟨mark, tail, rfl, letter⟩
    · rw [List.nil_append]
      have taken := throughout_unmarked_of_silent backSilent
      rw [List.takeWhile_eq_self_iff.mpr taken, filter_isDigit_silent backSilent]
    · have marked : unmarked mark = false := by
        rcases letter with rfl | rfl <;> decide
      rw [List.cons_append, List.takeWhile_cons_of_neg (by simp [marked]), List.filter_nil]
  have mantissa : ((front ++ (literal ++ rest ++ back)).takeWhile unmarked).filter isDigit =
      literal.filter isDigit := by
    rw [List.takeWhile_append_of_pos (throughout_unmarked_of_silent frontSilent),
      List.append_assoc, List.takeWhile_append_of_pos (throughout_unmarked_of_isNumeral numeral),
      List.filter_append, List.filter_append, filter_isDigit_silent frontSilent, ending,
      List.nil_append, List.append_nil]
  have digits : Throughout isDigit (literal.filter isDigit) :=
    fun character member => (List.mem_filter.mp member).2
  rw [significantDigits, mantissa]
  exact withoutZeros_eq digits (digits_ofLiteral numeral).symm nonzero

/-! ## Texts that are read -/

section

variable {text : List Char} {value : Float}

theorem exists_decimal?_of_ofText? (read : ofText? text = some value)
    (finite : codeOf value < infinityCode) :
    ∃ decimal, decimal? (splitSign text).2 = some decimal ∧ decimal.code = codeOf value := by
  simp only [ofText?] at read
  split at read
  · cases read
    exact absurd finite (by decide +kernel)
  · split at read
    · cases read
      have infinite : codeOf (infinity (splitSign text).1) = infinityCode :=
        codeOf_ofCode _ (Nat.le_refl _)
      rw [infinite] at finite
      exact absurd finite (Nat.lt_irrefl _)
    · rcases Option.map_eq_some_iff.mp read with ⟨decimal, magnitude, rfl⟩
      exact ⟨decimal, magnitude, (codeOf_ofCode _ (code_le_infinityCode decimal)).symm⟩

theorem throughout_silent_of_blank {blanks : List Char} (blank : Throughout isBlank blanks) :
    Throughout isSilent blanks := by
  intro character member
  have isBlank := blank character member
  have noMark : isMark character = false := by
    cases mark : isMark character with
    | false => rfl
    | true =>
        simp only [isMark, Bool.or_eq_true, beq_iff_eq] at mark
        rcases mark with rfl | rfl
        · exact absurd isBlank (by decide)
        · exact absurd isBlank (by decide)
  rw [isSilent, isDigit_eq_false_of_isBlank isBlank, noMark]
  rfl

theorem exists_significantDigits_eq (read : Function.operand text = .ok value)
    (finite : codeOf value < infinityCode) (nonzero : codeOf value ≠ 0) :
    ∃ decimal : Decimal, decimal.code = codeOf value ∧
      significantDigits text = decimal.stripped.digitText := by
  have found : ofText? (trim text) = some value := by
    rw [Function.operand] at read
    split at read
    · rename_i other equal
      cases read
      exact equal
    · cases read
  rcases exists_decimal?_of_ofText? found finite with ⟨decimal, magnitude, code⟩
  rcases exists_trim text with ⟨front, back, frontBlank, backBlank, surrounded⟩
  rcases exists_splitSign (trim text) with ⟨sign, known, signed, -⟩
  have signSilent : Throughout isSilent sign := by
    have each : ∀ sign ∈ [[], ['+'], ['-']], Throughout isSilent sign := by decide
    exact each sign known
  have frontSilent : Throughout isSilent (front ++ sign) :=
    (throughout_append _ _).mpr ⟨throughout_silent_of_blank frontBlank, signSilent⟩
  have whole : text = front ++ sign ++ ((splitSign (trim text)).2 ++ back) := by
    conv_lhs => rw [surrounded, signed]
    simp only [List.append_assoc]
  refine ⟨decimal, code, ?_⟩
  rw [whole]
  exact significantDigits_eq frontSilent (throughout_silent_of_blank backBlank) magnitude
    fun none => nonzero (code ▸ code_of_digits_eq_zero none)

end

/-! ## Displays -/

variable {value : Float}

theorem length_significantDigits_displayText_le (finite : codeOf value < infinityCode)
    (nonzero : codeOf value ≠ 0) :
    (significantDigits (displayText value)).length ≤
      (shortestDecimal (codeOf value)).digitText.length := by
  rcases (writes_layout (codeOf value)).read with ⟨decimal, read, same⟩
  have signSilent : Throughout isSilent (signText value) := by
    unfold signText
    split <;> decide
  have code : decimal.code = codeOf value := by
    rw [code_eq_of_value_eq same, code_shortestDecimal finite]
  have digits := significantDigits_eq signSilent throughout_nil read
    fun none => nonzero (code ▸ code_of_digits_eq_zero none)
  rw [List.append_nil, ← displayText_of_lt finite] at digits
  rw [digits]
  exact length_digitsOfNatural_mono (digits_stripped_le same)

/-- A display without significant digits: zeros, infinities, and what is no number. -/
theorem significantDigits_displayText_of_other
    (other : codeOf value = 0 ∨ infinityCode ≤ codeOf value) :
    significantDigits (displayText value) = [] := by
  rcases other with zero | large
  · rw [← ofCode_codeOf value, zero]
    cases isNegative value <;> decide +kernel
  · rcases Nat.eq_or_lt_of_le large with infinite | beyond
    · rw [displayText_of_eq infinite.symm, signText]
      split <;> decide
    · rw [displayText_of_gt beyond]
      decide

theorem displayText_shortest (value : Float) :
    Function.operand (displayText value) = .ok value ∧
      ∀ text, Function.operand text = .ok value →
        (significantDigits (displayText value)).length ≤ (significantDigits text).length := by
  refine ⟨operand_displayText value, fun text read => ?_⟩
  by_cases other : codeOf value = 0 ∨ infinityCode ≤ codeOf value
  · rw [significantDigits_displayText_of_other other]
    exact Nat.zero_le _
  · rw [not_or, Nat.not_le] at other
    rcases exists_significantDigits_eq read other.2 other.1 with ⟨decimal, code, digits⟩
    have back : decimal.stripped.code = codeOf value :=
      (code_eq_of_value_eq (value_stripped decimal)).trans code
    calc
      (significantDigits (displayText value)).length
          ≤ (shortestDecimal (codeOf value)).digitText.length :=
        length_significantDigits_displayText_le other.2 other.1
      _ ≤ decimal.stripped.digitText.length := length_shortestDecimal_le other.2 back
      _ = (significantDigits text).length := by rw [digits]

/-- The smallest double, which a text with many more digits is read as, too. -/
theorem displayText_shortest_of_smallest :
    let smallest := ofCode false 1
    let long := " +0.00049406564584124654E-320".toList
    Function.operand long = .ok smallest ∧
      Function.operand (displayText smallest) = .ok smallest ∧
      (significantDigits (displayText smallest)).length ≤ (significantDigits long).length ∧
      significantDigits (displayText smallest) = "5".toList ∧
      significantDigits long = "49406564584124654".toList := by
  intro smallest long
  have read : Function.operand long = .ok smallest := by decide +kernel
  have shortest := displayText_shortest smallest
  exact ⟨read, shortest.1, shortest.2 long read, by decide +kernel, by decide +kernel⟩

end DeskCalculator.Number
