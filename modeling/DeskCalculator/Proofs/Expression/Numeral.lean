import DeskCalculator.Proofs.Expression.SignedLiteral
import DeskCalculator.Proofs.Number.Nearest

/-! A literal writes a rational number, and evaluating it gives the nearest double. It is the
number that counts and not how it is written, and a larger number is never evaluated to a
smaller double. -/

namespace DeskCalculator.Expression

open Text Number

/-- The text is a literal and writes the rational number. -/
inductive IsNumeralOf : List Char → ℚ → Prop
  | whole {digits : List Char} (all : Throughout isDigit digits) (some : digits ≠ []) :
      IsNumeralOf digits (naturalOfDigits digits)
  | pointed {whole fraction : List Char} (wholeAll : Throughout isDigit whole)
      (wholeSome : whole ≠ []) (fractionAll : Throughout isDigit fraction) :
      IsNumeralOf (whole ++ '.' :: fraction)
        (naturalOfDigits whole + naturalOfDigits fraction / 10 ^ fraction.length)
  | fraction {digits : List Char} (all : Throughout isDigit digits) (some : digits ≠ []) :
      IsNumeralOf ('.' :: digits) (naturalOfDigits digits / 10 ^ digits.length)

namespace IsNumeralOf

variable {text : List Char} {exact : ℚ}

theorem isNumeral (numeral : IsNumeralOf text exact) : IsNumeral text := by
  cases numeral with
  | whole all some => exact .whole all some
  | pointed wholeAll wholeSome fractionAll => exact .pointed wholeAll wholeSome fractionAll
  | fraction all some => exact .fraction all some

theorem pointedValue_eq (whole fraction : List Char) :
    pointedValue whole fraction =
      naturalOfDigits whole + naturalOfDigits fraction / 10 ^ fraction.length := by
  have scale : (10 : ℚ) ^ fraction.length ≠ 0 := by positivity
  rw [pointedValue, naturalOfDigits_append]
  push_cast
  rw [add_div, mul_div_cancel_left₀ _ scale]

theorem value_eq (numeral : IsNumeralOf text exact) : (Decimal.ofLiteral text).value = exact := by
  cases numeral with
  | whole all _ =>
      have cut : text.takeWhile isDigit = text := by
        simpa only [List.append_nil] using all.takeWhile_append notAhead_nil
      have rest : text.dropWhile isDigit = [] := by
        simpa only [List.append_nil] using all.dropWhile_append notAhead_nil
      simp only [Decimal.ofLiteral, cut, rest, Decimal.value]
      simp
  | @pointed whole fraction wholeAll _ _ =>
      rw [value_ofLiteral_pointed fraction wholeAll, pointedValue_eq]
  | @fraction digits _ _ =>
      have read := value_ofLiteral_pointed digits throughout_nil
      rw [List.nil_append, pointedValue_eq] at read
      rw [read]
      simp [naturalOfDigits]

theorem of_value_eq {other : ℚ} (numeral : IsNumeralOf text exact) (equal : exact = other) :
    IsNumeralOf text other :=
  equal ▸ numeral

/-! Zeros in front of a literal and behind its digits, and a point behind a literal without
one, leave the number that it writes. -/

theorem zeros_append (numeral : IsNumeralOf text exact) (count : Nat) :
    IsNumeralOf (List.replicate count '0' ++ text) exact := by
  have zeros := throughout_replicate_zero count
  cases numeral with
  | whole all some =>
      have together := (throughout_append _ _).mpr ⟨zeros, all⟩
      refine (whole together (List.append_ne_nil_of_right_ne_nil _ some)).of_value_eq ?_
      rw [naturalOfDigits_zeros_append]
  | pointed wholeAll wholeSome fractionAll =>
      have together := (throughout_append _ _).mpr ⟨zeros, wholeAll⟩
      rw [← List.append_assoc]
      refine (pointed together (List.append_ne_nil_of_right_ne_nil _ wholeSome)
        fractionAll).of_value_eq ?_
      rw [naturalOfDigits_zeros_append]
  | @fraction digits all some =>
      cases count with
      | zero => exact fraction all some
      | succ count =>
          refine (pointed zeros (List.cons_ne_nil _ _) all).of_value_eq ?_
          rw [naturalOfDigits_replicate_zero, Nat.cast_zero, zero_add]

theorem fraction_append_zeros (digits : List Char) (count : Nat) :
    (naturalOfDigits (digits ++ List.replicate count '0') : ℚ) /
        10 ^ (digits ++ List.replicate count '0').length =
      naturalOfDigits digits / 10 ^ digits.length := by
  have scale : (10 : ℚ) ^ count ≠ 0 := by positivity
  rw [naturalOfDigits_append_zeros, List.length_append, List.length_replicate, pow_add]
  push_cast
  exact mul_div_mul_right _ _ scale

theorem append_zeros (numeral : IsNumeralOf text exact) (point : '.' ∈ text) (count : Nat) :
    IsNumeralOf (text ++ List.replicate count '0') exact := by
  have zeros := throughout_replicate_zero count
  cases numeral with
  | whole all _ => exact absurd (all '.' point) (by decide)
  | @pointed whole fraction wholeAll wholeSome fractionAll =>
      have together := (throughout_append _ _).mpr ⟨fractionAll, zeros⟩
      rw [List.append_assoc, List.cons_append]
      refine (pointed wholeAll wholeSome together).of_value_eq ?_
      rw [fraction_append_zeros]
  | @fraction digits all some =>
      have together := (throughout_append _ _).mpr ⟨all, zeros⟩
      rw [List.cons_append]
      refine (fraction together (List.append_ne_nil_of_left_ne_nil some _)).of_value_eq ?_
      rw [fraction_append_zeros]

theorem append_point (numeral : IsNumeralOf text exact) (noPoint : '.' ∉ text) :
    IsNumeralOf (text ++ ['.']) exact := by
  cases numeral with
  | whole all some =>
      refine (pointed all some throughout_nil).of_value_eq ?_
      simp [naturalOfDigits]
  | pointed _ _ _ => exact absurd (by simp) noPoint
  | fraction _ _ => exact absurd (by simp) noPoint

theorem evaluate (numeral : IsNumeralOf text exact) (limit : Nat) :
    evaluate limit text = .ok (ofLiteral text) :=
  standsFor_iff_evaluate.mp
    ((standsFor_literal numeral.isNumeral).raise (Nat.zero_le limit)).term.expression

theorem ofLiteral_eq {other : List Char} (numeral : IsNumeralOf text exact)
    (same : IsNumeralOf other exact) : ofLiteral other = ofLiteral text :=
  congrArg (ofCode false)
    (Decimal.code_eq_of_value_eq (same.value_eq.trans numeral.value_eq.symm))

theorem ofLiteral_mono {other : List Char} {larger : ℚ} (numeral : IsNumeralOf text exact)
    (further : IsNumeralOf other larger) (le : exact ≤ larger) :
    ofLiteral text ≤ ofLiteral other := by
  rw [← numeral.value_eq, ← further.value_eq] at le
  exact (ofCode_le_ofCode (Decimal.code_le_infinityCode _)
    (Decimal.code_le_infinityCode _)).mpr (Decimal.code_mono le)

end IsNumeralOf

/-- What the evaluation of a literal that writes a number comes to, in every way of writing
the number. -/
structure EvaluatesToNearest (limit : Nat) (text : List Char) (exact : ℚ) (value : Float) :
    Prop where
  evaluated : evaluate limit text = .ok value
  nearest : IsNearest exact value
  leadingZeros : ∀ count, evaluate limit (List.replicate count '0' ++ text) = .ok value
  trailingZeros : '.' ∈ text →
    ∀ count, evaluate limit (text ++ List.replicate count '0') = .ok value
  trailingPoint : '.' ∉ text → evaluate limit (text ++ ['.']) = .ok value
  same : ∀ other, IsNumeralOf other exact → evaluate limit other = .ok value
  mono : ∀ other larger, IsNumeralOf other larger → exact ≤ larger →
    ∃ greater, evaluate limit other = .ok greater ∧ value ≤ greater

theorem evaluate_numeral {text : List Char} {exact : ℚ} (limit : Nat)
    (numeral : IsNumeralOf text exact) :
    ∃ value, EvaluatesToNearest limit text exact value := by
  have same (other : List Char) (alike : IsNumeralOf other exact) :
      evaluate limit other = .ok (ofLiteral text) := by
    rw [alike.evaluate limit, numeral.ofLiteral_eq alike]
  have nearest := Decimal.isNearest (.ofLiteral text)
  rw [numeral.value_eq] at nearest
  exact ⟨ofLiteral text,
    { evaluated := numeral.evaluate limit
      nearest := nearest
      leadingZeros := fun count => same _ (numeral.zeros_append count)
      trailingZeros := fun point count => same _ (numeral.append_zeros point count)
      trailingPoint := fun noPoint => same _ (numeral.append_point noPoint)
      same := same
      mono := fun other _ further le =>
        ⟨ofLiteral other, further.evaluate limit, numeral.ofLiteral_mono further le⟩ }⟩

/-- Halfway between two doubles the even one is taken. -/
theorem evaluate_numeral_tied :
    IsNumeralOf "9007199254740993".toList 9007199254740993 ∧
      ∃ value, EvaluatesToNearest defaultLimit "9007199254740993".toList 9007199254740993
        value ∧ value.toBits = 0x4340000000000000 := by
  have digits : naturalOfDigits "9007199254740993".toList = 9007199254740993 := by decide
  have numeral : IsNumeralOf "9007199254740993".toList 9007199254740993 := by
    refine (IsNumeralOf.whole (by decide) (by decide)).of_value_eq ?_
    rw [digits, Nat.cast_ofNat]
  rcases evaluate_numeral defaultLimit numeral with ⟨value, comes⟩
  have equal : value = ofLiteral "9007199254740993".toList :=
    Except.ok.inj (comes.evaluated.symm.trans (numeral.evaluate defaultLimit))
  have bits : (ofLiteral "9007199254740993".toList).toBits = 0x4340000000000000 := by
    decide +kernel
  exact ⟨numeral, value, comes, equal ▸ bits⟩

end DeskCalculator.Expression
