import DeskCalculator.Proofs.Text.Run
import Mathlib.Algebra.Order.Field.Rat

/-! Reading digits undoes writing a natural number, and zeros in front change nothing. -/

namespace DeskCalculator.Text

theorem throughout_digitsOfNatural (value : Nat) :
    Throughout isDigit (digitsOfNatural value) := by
  intro character member
  have digit := Nat.isDigit_of_mem_toDigits (by decide) (by decide) member
  simp only [Char.isDigit, Bool.and_eq_true, decide_eq_true_eq] at digit
  simp only [isDigit, Bool.and_eq_true, decide_eq_true_eq]
  exact digit

theorem digitsOfNatural_ne_nil (value : Nat) : digitsOfNatural value ≠ [] :=
  Nat.toDigits_ne_nil

/-! A number other than zero does not begin with the digit zero, and its last digit is its
remainder. -/

theorem digitChar_ne_zero {digit : Nat} (some : digit ≠ 0) (bounded : digit < 10) :
    digit.digitChar ≠ '0' := by
  have each : ∀ digit < 10, digit ≠ 0 → digit.digitChar ≠ '0' := by decide
  exact each digit bounded some

theorem head?_digitsOfNatural {value : Nat} (some : value ≠ 0) :
    (digitsOfNatural value).head? ≠ .some '0' := by
  induction value using Nat.strongRecOn with
  | ind value induction =>
      rw [digitsOfNatural, Nat.toDigits_eq_if (by decide)]
      split
      · rename_i bounded
        exact fun first => digitChar_ne_zero some bounded (Option.some.inj first)
      · rename_i large
        rcases List.exists_cons_of_ne_nil (digitsOfNatural_ne_nil (value / 10)) with
          ⟨first, rest, digits⟩
        have further := induction (value / 10) (by omega) (by omega)
        rw [digitsOfNatural] at digits further
        rw [digits] at further ⊢
        exact further

theorem getLast?_digitsOfNatural (value : Nat) :
    (digitsOfNatural value).getLast? = some (value % 10).digitChar := by
  rw [digitsOfNatural, Nat.toDigits_eq_if (by decide)]
  split
  · rename_i bounded
    rw [Nat.mod_eq_of_lt bounded]
    rfl
  · exact List.getLast?_concat

/-! The number of digits tells the size. -/

theorem length_digitsOfNatural_le_iff {value count : Nat} (positive : 0 < count) :
    (digitsOfNatural value).length ≤ count ↔ value < 10 ^ count :=
  Nat.length_toDigits_le_iff (by decide) positive

theorem lt_pow_length_digitsOfNatural (value : Nat) :
    value < 10 ^ (digitsOfNatural value).length :=
  (length_digitsOfNatural_le_iff Nat.length_toDigits_pos).mp (Nat.le_refl _)

theorem pow_length_digitsOfNatural_le {value : Nat} (some : value ≠ 0) :
    10 ^ ((digitsOfNatural value).length - 1) ≤ value := by
  rcases Nat.eq_zero_or_pos ((digitsOfNatural value).length - 1) with single | more
  · rw [single]
    exact Nat.pos_of_ne_zero some
  · have longer : ¬(digitsOfNatural value).length ≤ (digitsOfNatural value).length - 1 := by
      omega
    rw [length_digitsOfNatural_le_iff more] at longer
    exact Nat.le_of_not_lt longer

theorem length_digitsOfNatural_mono {smaller larger : Nat} (le : smaller ≤ larger) :
    (digitsOfNatural smaller).length ≤ (digitsOfNatural larger).length :=
  (length_digitsOfNatural_le_iff Nat.length_toDigits_pos).mpr
    (Nat.lt_of_le_of_lt le (lt_pow_length_digitsOfNatural larger))

theorem throughout_replicate_zero (count : Nat) :
    Throughout isDigit (List.replicate count '0') := by
  intro character member
  rw [List.eq_of_mem_replicate member]
  rfl

theorem naturalOfDigits_eq_ofDigitChars (digits : List Char) :
    naturalOfDigits digits = Nat.ofDigitChars 10 digits 0 :=
  Nat.ofDigitChars_eq_foldl.symm

@[simp] theorem naturalOfDigits_digitsOfNatural (value : Nat) :
    naturalOfDigits (digitsOfNatural value) = value := by
  rw [naturalOfDigits_eq_ofDigitChars]
  exact Nat.ofDigitChars_ten_toDigits

theorem naturalOfDigits_append (left right : List Char) :
    naturalOfDigits (left ++ right) =
      10 ^ right.length * naturalOfDigits left + naturalOfDigits right := by
  simp only [naturalOfDigits_eq_ofDigitChars, Nat.ofDigitChars_append]
  exact Nat.ofDigitChars_eq_ofDigitChars_zero

theorem naturalOfDigits_replicate_zero (count : Nat) :
    naturalOfDigits (List.replicate count '0') = 0 := by
  rw [naturalOfDigits_eq_ofDigitChars, Nat.ofDigitChars_replicate_zero, Nat.mul_zero]

theorem naturalOfDigits_zeros_append (count : Nat) (digits : List Char) :
    naturalOfDigits (List.replicate count '0' ++ digits) = naturalOfDigits digits := by
  rw [naturalOfDigits_append, naturalOfDigits_replicate_zero, Nat.mul_zero, Nat.zero_add]

theorem naturalOfDigits_append_zeros (digits : List Char) (count : Nat) :
    naturalOfDigits (digits ++ List.replicate count '0') =
      naturalOfDigits digits * 10 ^ count := by
  rw [naturalOfDigits_append, naturalOfDigits_replicate_zero, List.length_replicate,
    Nat.add_zero, Nat.mul_comm]

/-- Padding with zeros up to a place behind the last digit. -/
theorem naturalOfDigits_padded (digits : List Char) (place : Nat) :
    naturalOfDigits (digits.take place ++ List.replicate (place - digits.length) '0' ++
        digits.drop place) =
      naturalOfDigits digits * 10 ^ (place - digits.length) := by
  by_cases inside : place ≤ digits.length
  · rw [Nat.sub_eq_zero_of_le inside, List.replicate_zero, List.append_nil,
      List.take_append_drop, Nat.pow_zero, Nat.mul_one]
  · have behind : digits.length ≤ place := Nat.le_of_not_le inside
    rw [List.take_of_length_le behind, List.drop_eq_nil_of_le behind, List.append_nil,
      naturalOfDigits_append_zeros]

/-! Writing a natural number undoes reading digits, if they do not begin with zero. -/

theorem digitsOfNatural_naturalOfDigits_singleton {digit : Char}
    (isDigit : isDigit digit = true) :
    digitsOfNatural (naturalOfDigits [digit]) = [digit] ∧ naturalOfDigits [digit] < 10 := by
  have each : Throughout (fun digit => decide (digitsOfNatural (naturalOfDigits [digit]) =
      [digit] ∧ naturalOfDigits [digit] < 10)) digits := by decide
  exact of_decide_eq_true (each digit (mem_digits_of_isDigit isDigit))

theorem digitsOfNatural_naturalOfDigits {text : List Char} (all : Throughout isDigit text)
    (some : text ≠ []) (first : text.head? ≠ .some '0') :
    digitsOfNatural (naturalOfDigits text) = text := by
  -- The last digit is the remainder, and those before it are the quotient.
  rcases List.eq_nil_or_concat text with rfl | ⟨front, last, rfl⟩
  · exact absurd rfl some
  rw [List.concat_eq_append] at *
  rcases (throughout_append _ _).mp all with ⟨frontAll, lastAll⟩
  rcases digitsOfNatural_naturalOfDigits_singleton ((throughout_cons _ _).mp lastAll).1 with
    ⟨single, bounded⟩
  by_cases alone : front = []
  · rw [alone, List.nil_append, single]
  · have frontFirst : front.head? ≠ .some '0' := by
      rcases List.exists_cons_of_ne_nil alone with ⟨head, tail, rfl⟩
      exact first
    have written := digitsOfNatural_naturalOfDigits frontAll alone frontFirst
    have positive : 0 < naturalOfDigits front := by
      rw [Nat.pos_iff_ne_zero]
      intro zero
      rw [zero] at written
      exact frontFirst (written ▸ rfl)
    have joined : digitsOfNatural (naturalOfDigits front) ++
        digitsOfNatural (naturalOfDigits [last]) =
          digitsOfNatural (10 * naturalOfDigits front + naturalOfDigits [last]) :=
      Nat.toDigits_append_toDigits (by decide) positive bounded
    rw [written, single] at joined
    rw [naturalOfDigits_append]
    exact joined.symm
termination_by text.length
decreasing_by
  subst_vars
  simp

/-! A natural number can be typed with a plus sign in front. -/

/-- The text is digits, at least one, with at most one plus sign in front. -/
inductive WritesNatural : List Char → Nat → Prop
  | unsigned {digits : List Char} (some : digits ≠ []) (all : Throughout isDigit digits) :
      WritesNatural digits (naturalOfDigits digits)
  | signed {digits : List Char} (some : digits ≠ []) (all : Throughout isDigit digits) :
      WritesNatural ('+' :: digits) (naturalOfDigits digits)

theorem naturalBelow?_eq_some_iff {bound value : Nat} {text : List Char} :
    naturalBelow? bound text = some value ↔ WritesNatural text value ∧ value < bound := by
  have read (digits : List Char) :
      (if !digits.isEmpty && digits.all isDigit && naturalOfDigits digits < bound then
          some (naturalOfDigits digits) else none) = some value ↔
        digits ≠ [] ∧ Throughout isDigit digits ∧ naturalOfDigits digits = value ∧
          value < bound := by
    rw [Option.ite_none_right_eq_some, Bool.and_eq_true, Bool.and_eq_true, Bool.not_eq_true',
      List.isEmpty_eq_false_iff, List.all_eq_true, decide_eq_true_eq, Option.some.injEq]
    constructor
    · rintro ⟨⟨⟨some, all⟩, fits⟩, rfl⟩
      exact ⟨some, all, rfl, fits⟩
    · rintro ⟨some, all, rfl, fits⟩
      exact ⟨⟨⟨some, all⟩, fits⟩, rfl⟩
  constructor
  · intro accepted
    unfold naturalBelow? at accepted
    split at accepted
    · rcases (read _).mp accepted with ⟨some, all, rfl, fits⟩
      exact ⟨.signed some all, fits⟩
    · rcases (read _).mp accepted with ⟨some, all, rfl, fits⟩
      exact ⟨.unsigned some all, fits⟩
  · rintro ⟨writes, fits⟩
    cases writes with
    | signed some all => exact (read _).mpr ⟨some, all, rfl, fits⟩
    | unsigned some all =>
        unfold naturalBelow?
        split
        · exact absurd ((throughout_cons _ _).mp all).1 (by decide)
        · exact (read text).mpr ⟨some, all, rfl, fits⟩

end DeskCalculator.Text
