import DeskCalculator.Proofs.Number.Literal
import DeskCalculator.Proofs.Number.Value
import DeskCalculator.Proofs.Text.Digit

/-! Digits around a point, with or without an exponent behind them, are read as the
decimal with the value they write. A text that starts with a digit is none of the
words, and its sign is the character in front of it. -/

namespace DeskCalculator.Number

open Text

/-! A digit is neither a sign nor a letter. -/

section

variable {first : Char} {rest : List Char}

theorem splitSign_of_isDigit (digit : isDigit first = true) :
    splitSign (first :: rest) = (false, first :: rest) := by
  unfold splitSign
  split
  · rename_i equal
    cases equal
    exact absurd digit (by decide)
  · rename_i equal
    cases equal
    exact absurd digit (by decide)
  · rfl

theorem toLower_of_isDigit (digit : isDigit first = true) : first.toLower = first := by
  simp only [isDigit, Bool.and_eq_true, decide_eq_true_eq, Char.le_def] at digit
  have below : ¬ 65 ≤ first.val := by
    have upper := digit.2
    rw [UInt32.le_iff_toNat_le] at upper ⊢
    have nine : '9'.val.toNat = 57 := rfl
    have letter : (65 : UInt32).toNat = 65 := rfl
    omega
  exact dif_neg fun letter => below letter.1

theorem isWord_of_isDigit {word : String} (digit : isDigit first = true)
    (letter : NotAhead isDigit word.toList) : isWord word (first :: rest) = false := by
  rw [isWord, List.map_cons, toLower_of_isDigit digit]
  cases letters : word.toList with
  | nil => rfl
  | cons head tail =>
      rw [letters, notAhead_cons] at letter
      have different : first ≠ head := by
        intro equal
        rw [equal, letter] at digit
        contradiction
      simp [different]

end

/-! Exponents are read as they are written. -/

theorem exponent?_digitsOfInteger (power : Int) :
    exponent? ('E' :: digitsOfInteger power) = some power := by
  cases power with
  | ofNat value =>
      rcases List.exists_cons_of_ne_nil (digitsOfNatural_ne_nil value) with
        ⟨first, rest, digits⟩
      have all := List.all_eq_true.2 (throughout_digitsOfNatural value)
      have read := naturalOfDigits_digitsOfNatural value
      rw [digits] at all read
      have digit : isDigit first = true := by
        rw [List.all_cons, Bool.and_eq_true] at all
        exact all.1
      simp [exponent?, digitsOfInteger, digits, splitSign_of_isDigit digit, all, read]
  | negSucc value =>
      have all := List.all_eq_true.2 (throughout_digitsOfNatural (value + 1))
      have some := digitsOfNatural_ne_nil (value + 1)
      simp [exponent?, digitsOfInteger, splitSign, all, some, Int.negSucc_eq]

/-! Digits around a point write their number divided by the power of ten that the
digits behind the point count. -/

/-- The rational number that digits around a point write. -/
def pointedValue (whole fraction : List Char) : ℚ :=
  naturalOfDigits (whole ++ fraction) / 10 ^ fraction.length

/-- Digits around a point write a decimal if they hold its digits, padded with as
many zeros as its exponent is ahead of the point. -/
theorem pointedValue_eq_value {whole fraction : List Char} {digits padding : Nat}
    {exponent : Int}
    (number : naturalOfDigits (whole ++ fraction) = digits * 10 ^ padding)
    (position : (padding : Int) - fraction.length = exponent) :
    pointedValue whole fraction = Decimal.value ⟨digits, exponent⟩ := by
  rw [pointedValue, number, Decimal.value, ← position, zpow_sub₀ (by norm_num),
    zpow_natCast, zpow_natCast]
  push_cast
  exact mul_div_assoc _ _ _

theorem value_ofLiteral_pointed {whole : List Char} (fraction : List Char)
    (digits : Throughout isDigit whole) :
    (Decimal.ofLiteral (whole ++ '.' :: fraction)).value = pointedValue whole fraction := by
  have point := notAhead_digit_point fraction
  simp only [Decimal.ofLiteral, digits.takeWhile_append point,
    digits.dropWhile_append point, List.drop_succ_cons, List.drop_zero, Decimal.value,
    pointedValue, zpow_neg, zpow_natCast, div_eq_mul_inv]

/-- The text starts with a digit and is read as a decimal with the value of this one. -/
structure Writes (text : List Char) (decimal : Decimal) : Prop where
  leading : ∃ first rest, text = first :: rest ∧ isDigit first = true
  read : ∃ found, decimal? text = some found ∧ found.value = decimal.value

theorem writes_pointed {whole fraction rest : List Char} {decimal : Decimal} {power : Int}
    (wholeAll : Throughout isDigit whole) (wholeSome : whole ≠ [])
    (fractionAll : Throughout isDigit fraction) (stops : NotAhead isDigit rest)
    (exponent : exponent? rest = some power)
    (value : pointedValue whole fraction * 10 ^ power = decimal.value) :
    Writes ((whole ++ '.' :: fraction) ++ rest) decimal where
  leading := by
    rcases List.exists_cons_of_ne_nil wholeSome with ⟨first, others, rfl⟩
    rw [throughout_cons] at wholeAll
    exact ⟨first, _, rfl, wholeAll.1⟩
  read := by
    have cut := splitLiteral_of_isCut (.pointed wholeAll fractionAll stops)
    have literal := (isLiteral_iff_isNumeral _).2 (.pointed wholeAll wholeSome fractionAll)
    let found := Decimal.ofLiteral (whole ++ '.' :: fraction)
    refine ⟨⟨found.digits, found.exponent + power⟩, ?_, ?_⟩
    · simp only [decimal?, cut, literal, if_true, exponent, Option.map_some, found]
    · rw [← value, ← value_ofLiteral_pointed fraction wholeAll]
      exact Decimal.value_add_exponent found.digits found.exponent power

/-- Behind a minus sign, or without one, such a text is the double of that sign with
the code of the decimal. -/
theorem Writes.ofText?_eq {text : List Char} {decimal : Decimal}
    (writes : Writes text decimal) (negative : Bool) :
    ofText? ((if negative then ['-'] else []) ++ text) =
      some (ofCode negative decimal.code) := by
  rcases writes.leading with ⟨first, rest, rfl, digit⟩
  rcases writes.read with ⟨found, read, value⟩
  have split : splitSign ((if negative then ['-'] else []) ++ first :: rest) =
      (negative, first :: rest) := by
    cases negative with
    | true => rfl
    | false => exact splitSign_of_isDigit digit
  have nan : isWord "nan" (first :: rest) = false := isWord_of_isDigit digit (by decide)
  have inf : isWord "inf" (first :: rest) = false := isWord_of_isDigit digit (by decide)
  have infinity : isWord "infinity" (first :: rest) = false :=
    isWord_of_isDigit digit (by decide)
  simp [ofText?, split, nan, inf, infinity, read, Decimal.code_eq_of_value_eq value]

/-! What is read can be told from the text: it is a sign, a literal and an exponent, and
the first and the last of them may be missing. -/

theorem exists_splitSign (text : List Char) :
    ∃ sign ∈ [[], ['+'], ['-']], text = sign ++ (splitSign text).2 ∧
      (splitSign text).1 = (sign == ['-']) := by
  unfold splitSign
  split
  · exact ⟨['-'], by decide, rfl, rfl⟩
  · exact ⟨['+'], by decide, rfl, rfl⟩
  · exact ⟨[], by decide, rfl, rfl⟩

theorem eq_nil_or_mark_of_exponent? {rest : List Char} {power : Int}
    (read : exponent? rest = some power) :
    rest = [] ∨ ∃ mark tail, rest = mark :: tail ∧ (mark = 'e' ∨ mark = 'E') := by
  cases rest with
  | nil => exact .inl rfl
  | cons mark tail =>
      refine .inr ⟨mark, tail, rfl, ?_⟩
      simp only [exponent?] at read
      split at read
      · rename_i wellFormed
        simp only [Bool.and_eq_true, Bool.or_eq_true, beq_iff_eq] at wellFormed
        exact wellFormed.1.1
      · cases read

theorem decimal?_of_isNumeral {literal : List Char} (numeral : IsNumeral literal) :
    decimal? literal = some (.ofLiteral literal) := by
  have cut := splitLiteral_of_isCut (numeral.isCut notAhead_nil notAhead_nil)
  rw [List.append_nil] at cut
  simp [decimal?, cut, (isLiteral_iff_isNumeral literal).mpr numeral, exponent?]

theorem exists_of_decimal? {text : List Char} {decimal : Decimal}
    (read : decimal? text = some decimal) :
    ∃ literal rest power, text = literal ++ rest ∧ IsNumeral literal ∧
      exponent? rest = some power ∧
      decimal = ⟨(Decimal.ofLiteral literal).digits,
        (Decimal.ofLiteral literal).exponent + power⟩ := by
  simp only [decimal?] at read
  split at read
  · rename_i literal
    rcases Option.map_eq_some_iff.mp read with ⟨power, exponent, rfl⟩
    exact ⟨_, _, power, (splitLiteral_append text).symm,
      (isLiteral_iff_isNumeral _).mp literal, exponent, rfl⟩
  · cases read

end DeskCalculator.Number
