import DeskCalculator.Proofs.Number.Digits
import DeskCalculator.Proofs.Number.Monotone
import DeskCalculator.Proofs.Number.Plain

/-! The text on the display is a word or has one of two layouts. The number decides which, by
comparisons of doubles, while the digits come from its shortest decimal. The two agree: a
decimal that is written out has at most seven digits in front of its point, and a power of
ten is never one that could have been written out. -/

namespace DeskCalculator.Number

open Text

/-! ## Shapes -/

/-- Digits without needless zeros in front of them. -/
structure IsWhole (text : List Char) : Prop where
  digits : Throughout isDigit text
  nonempty : text ≠ []
  first : text = ['0'] ∨ text.head? ≠ some '0'

/-- Digits without needless zeros behind them. -/
structure IsFraction (text : List Char) : Prop where
  digits : Throughout isDigit text
  nonempty : text ≠ []
  last : text = ['0'] ∨ text.getLast? ≠ some '0'

/-- A power of ten from the seventh upward or from the fourth below one downward. -/
inductive IsPower : List Char → Prop where
  | large {text : List Char} (whole : IsWhole text) (bound : 7 ≤ naturalOfDigits text) :
      IsPower text
  | small {text : List Char} (whole : IsWhole text) (bound : 4 ≤ naturalOfDigits text) :
      IsPower ('-' :: text)

/-- What is told apart at first sight; all but the first may have a minus sign. -/
inductive Shape where
  | notANumber
  | infinite (negative : Bool)
  | positional (negative : Bool)
  | scientific (negative : Bool)
deriving DecidableEq, Repr

def minusIf (negative : Bool) : List Char :=
  if negative then ['-'] else []

inductive Shaped : Shape → List Char → Prop where
  | notANumber : Shaped .notANumber "NaN".toList
  | infinite (negative : Bool) :
      Shaped (.infinite negative) (minusIf negative ++ "Infinity".toList)
  | positional (negative : Bool) {whole fraction : List Char} (isWhole : IsWhole whole)
      (bounded : whole.length ≤ 7) (isFraction : IsFraction fraction) :
      Shaped (.positional negative) (minusIf negative ++ (whole ++ '.' :: fraction))
  | scientific (negative : Bool) {first : Char} {fraction power : List Char}
      (digit : isDigit first = true) (nonzero : first ≠ '0')
      (isFraction : IsFraction fraction) (isPower : IsPower power) :
      Shaped (.scientific negative)
        (minusIf negative ++ first :: '.' :: (fraction ++ 'E' :: power))

instance : DecidablePred IsPlain :=
  fun _ => inferInstanceAs (Decidable (_ ∨ _))

/-- The shape that a number is displayed in. -/
def shapeOf (value : Float) : Shape :=
  if value.isNaN then .notANumber
  else if value.isInf then .infinite (isNegative value)
  else if IsPlain value then .positional (isNegative value)
  else .scientific (isNegative value)

example : shapeOf 0.001 = .positional false ∧ shapeOf 0.0005 = .scientific false := by
  decide +kernel

/-! ## A text has one shape

A shape shows by the sign and by the first capital letter of a word or of an exponent. -/

def shapeOfText (text : List Char) : Shape :=
  let negative := text.head? == some '-'
  if text.contains 'N' then .notANumber
  else if text.contains 'I' then .infinite negative
  else if text.contains 'E' then .scientific negative
  else .positional negative

theorem head?_minusIf (negative : Bool) {text : List Char}
    (unsigned : NotAhead (· == '-') text) :
    ((minusIf negative ++ text).head? == some '-') = negative := by
  cases negative with
  | true => rfl
  | false =>
      cases text with
      | nil => rfl
      | cons first rest => exact (notAhead_cons _ _).mp unsigned

theorem contains_eq_false {property : Char → Bool} {text : List Char} {character : Char}
    (all : Throughout property text) (lacks : property character = false) :
    text.contains character = false := by
  cases found : text.contains character with
  | false => rfl
  | true =>
      rw [all character (List.contains_iff_mem.mp found)] at lacks
      exact absurd lacks (by decide)

theorem notAhead_minus_of_digit {first : Char} (digit : isDigit first = true)
    (rest : List Char) : NotAhead (· == '-') (first :: rest) := by
  have each : Throughout (· != '-') digits := by decide
  have other := each first (mem_digits_of_isDigit digit)
  exact (notAhead_cons _ _).mpr (by simpa using other)

/-- The characters of finite numbers. -/
def isNumeric (character : Char) : Bool :=
  isDigit character || character == '-' || character == '.' || character == 'E'

theorem throughout_numeric_minusIf (negative : Bool) : Throughout isNumeric (minusIf negative) := by
  cases negative <;> decide

theorem throughout_numeric_of_digits {text : List Char} (all : Throughout isDigit text) :
    Throughout isNumeric text :=
  all.of_digits (by decide)

theorem throughout_numeric_of_isPower {text : List Char} (power : IsPower text) :
    Throughout isNumeric text := by
  cases power with
  | large whole => exact throughout_numeric_of_digits whole.digits
  | small whole =>
      exact (throughout_cons _ _).mpr ⟨by decide, throughout_numeric_of_digits whole.digits⟩

theorem Shaped.shapeOfText_eq {shape : Shape} {text : List Char} (shaped : Shaped shape text) :
    shapeOfText text = shape := by
  cases shaped with
  | notANumber => decide
  | infinite negative => cases negative <;> decide
  | @positional negative whole fraction isWhole bounded isFraction =>
      have plain : Throughout (fun character => isNumeric character && character != 'E')
          (minusIf negative ++ (whole ++ '.' :: fraction)) := by
        rw [throughout_append, throughout_append, throughout_cons]
        refine ⟨?_, isWhole.digits.of_digits (by decide), by decide,
          isFraction.digits.of_digits (by decide)⟩
        cases negative <;> decide
      rcases List.exists_cons_of_ne_nil isWhole.nonempty with ⟨first, rest, rfl⟩
      have unsigned := notAhead_minus_of_digit ((throughout_cons _ _).mp isWhole.digits).1
        (rest ++ '.' :: fraction)
      rw [shapeOfText, contains_eq_false plain (by decide), contains_eq_false plain (by decide),
        contains_eq_false plain (by decide)]
      exact congrArg Shape.positional (head?_minusIf negative unsigned)
  | @scientific negative first fraction power digit nonzero isFraction isPower =>
      have numeric : Throughout isNumeric
          (minusIf negative ++ first :: '.' :: (fraction ++ 'E' :: power)) := by
        simp only [throughout_append, throughout_cons]
        exact ⟨throughout_numeric_minusIf negative, by simp [isNumeric, digit], by decide,
          throughout_numeric_of_digits isFraction.digits, by decide,
          throughout_numeric_of_isPower isPower⟩
      have marked : (minusIf negative ++ first :: '.' :: (fraction ++ 'E' :: power)).contains
          'E' = true := by
        simp
      have unsigned := notAhead_minus_of_digit digit ('.' :: (fraction ++ 'E' :: power))
      rw [shapeOfText, contains_eq_false numeric (by decide),
        contains_eq_false numeric (by decide), marked]
      exact congrArg Shape.scientific (head?_minusIf negative unsigned)

/-! ## Digits without zeros at their end -/

section

variable {decimal : Decimal}

theorem isFraction_shownFraction {fraction : List Char} (digits : Throughout isDigit fraction)
    (last : fraction.getLast? ≠ some '0') : IsFraction (shownFraction fraction) := by
  cases fraction with
  | nil => exact ⟨by decide, by decide, .inl rfl⟩
  | cons first rest => exact ⟨digits, List.cons_ne_nil _ _, .inr last⟩

theorem getLast?_drop_digitText (last : decimal.digits % 10 ≠ 0) (count : Nat) :
    (decimal.digitText.drop count).getLast? ≠ some '0' := by
  rw [List.getLast?_drop]
  split
  · nofun
  · exact Decimal.getLast?_digitText last

theorem isFraction_fractionText (last : decimal.digits % 10 ≠ 0) :
    IsFraction (shownFraction decimal.fractionText) := by
  refine isFraction_shownFraction (throughout_fractionText decimal) ?_
  rcases point_cases decimal with ⟨place, position, -⟩ | ⟨gap, position⟩
  · rw [fractionText_of_point_nonneg position]
    exact getLast?_drop_digitText last place
  · rw [fractionText_of_point_nonpos position,
      List.getLast?_append_of_ne_nil _ (digitText_ne_nil decimal)]
    exact Decimal.getLast?_digitText last

theorem isWhole_wholeText (some : decimal.digits ≠ 0) : IsWhole decimal.wholeText := by
  refine ⟨throughout_wholeText decimal, wholeText_ne_nil decimal, ?_⟩
  rcases point_cases decimal with ⟨place, position, positive⟩ | ⟨gap, position⟩
  · have first := head?_digitsOfNatural some
    refine .inr ?_
    rw [wholeText_of_point_pos position positive, List.head?_append_of_ne_nil,
      List.head?_take, if_neg (Nat.ne_of_gt positive)]
    · exact first
    · simp [digitText_ne_nil, Nat.ne_of_gt positive]
  · exact .inl (wholeText_of_point_nonpos position)

theorem length_wholeText_le {bound : Nat} (positive : 1 ≤ bound)
    (point : decimal.point ≤ bound) : decimal.wholeText.length ≤ bound := by
  rcases point_cases decimal with ⟨place, position, some⟩ | ⟨gap, position⟩
  · rw [wholeText_of_point_pos position some, List.length_append, List.length_take,
      List.length_replicate]
    omega
  · rw [wholeText_of_point_nonpos position]
    exact positive

theorem isWhole_digitsOfNatural (value : Nat) : IsWhole (digitsOfNatural value) := by
  refine ⟨throughout_digitsOfNatural value, digitsOfNatural_ne_nil value, ?_⟩
  by_cases zero : value = 0
  · subst zero
    exact .inl rfl
  · exact .inr (head?_digitsOfNatural zero)

theorem isPower_digitsOfInteger {power : Int} (outside : 7 ≤ power ∨ power ≤ -4) :
    IsPower (digitsOfInteger power) := by
  cases power with
  | ofNat value =>
      refine .large (isWhole_digitsOfNatural value) ?_
      rw [digitsOfInteger, naturalOfDigits_digitsOfNatural]
      rw [Int.ofNat_eq_natCast] at outside
      omega
  | negSucc value =>
      refine .small (isWhole_digitsOfNatural (value + 1)) ?_
      rw [naturalOfDigits_digitsOfNatural]
      omega

theorem shaped_positionalText (negative : Bool) (last : decimal.digits % 10 ≠ 0)
    (point : decimal.point ≤ 7) :
    Shaped (.positional negative) (minusIf negative ++ positionalText decimal) := by
  exact .positional negative (isWhole_wholeText (Decimal.digits_ne_zero last))
    (length_wholeText_le (by decide) point) (isFraction_fractionText last)

theorem shaped_scientificText (negative : Bool) (last : decimal.digits % 10 ≠ 0)
    (outside : 7 ≤ decimal.point - 1 ∨ decimal.point - 1 ≤ -4) :
    Shaped (.scientific negative) (minusIf negative ++ scientificText decimal) := by
  have head := head?_digitsOfNatural (Decimal.digits_ne_zero last)
  have all := throughout_digitText decimal
  have behind := getLast?_drop_digitText last 1
  rcases List.exists_cons_of_ne_nil (digitText_ne_nil decimal) with ⟨first, rest, digits⟩
  have text : scientificText decimal =
      first :: '.' :: (shownFraction rest ++ 'E' :: digitsOfInteger (decimal.point - 1)) := by
    rw [scientificText, digits]
    rfl
  rw [← Decimal.digitText, digits] at head
  rw [digits] at all behind
  rw [throughout_cons] at all
  rw [text]
  exact .scientific negative all.1 (fun zero => head (zero ▸ rfl))
    (isFraction_shownFraction all.2 behind) (isPower_digitsOfInteger outside)

end

/-! ## Where the point of a shortest decimal stands -/

theorem point_le_of_code_lt {decimal : Decimal} {power : Int} (some : decimal.digits ≠ 0)
    (below : decimal.code < Decimal.code ⟨1, power⟩) : decimal.point ≤ power :=
  Decimal.point_le_of_value_lt some (Decimal.value_one power ▸ Decimal.value_lt_of_code_lt below)

theorem lt_point_of_code_lt {decimal : Decimal} {power : Int}
    (above : Decimal.code ⟨1, power⟩ < decimal.code) : power < decimal.point :=
  Decimal.lt_point_of_le_value
    (Decimal.value_one power ▸ le_of_lt (Decimal.value_lt_of_code_lt above))

section

variable {code : Nat}

theorem shortestDecimal_last (finite : code < infinityCode) (some : code ≠ 0) :
    (shortestDecimal code).digits % 10 ≠ 0 := by
  rcases Decimal.stripped_cases (coarsestFrom code _) with none | last
  · have zero := Decimal.code_of_digits_eq_zero none
    exact absurd ((code_shortestDecimal finite).symm.trans zero) some
  · exact last

theorem least_eq : Decimal.code ⟨1, -3⟩ = nearestCode 1 1000 := by
  decide +kernel

theorem bound_eq : Decimal.code ⟨1, 7⟩ = nearestCode 10000000 1 := by
  decide +kernel

theorem point_le_of_isPositional (some : code ≠ 0) (positional : isPositional code = true) :
    (shortestDecimal code).point ≤ 7 := by
  have finite := lt_infinityCode_of_isPositional positional
  rcases (isPositional_iff code).mp positional with zero | ⟨-, below⟩
  · exact absurd zero some
  · rw [← code_shortestDecimal finite, ← bound_eq] at below
    exact point_le_of_code_lt (Decimal.digits_ne_zero (shortestDecimal_last finite some)) below

theorem point_outside (finite : code < infinityCode) (other : ¬isPositional code = true) :
    7 ≤ (shortestDecimal code).point - 1 ∨ (shortestDecimal code).point - 1 ≤ -4 := by
  rw [isPositional_iff, not_or, not_and_or, Nat.not_le, Nat.not_lt] at other
  rcases other with ⟨some, small | large⟩
  · have nonzero := Decimal.digits_ne_zero (shortestDecimal_last finite some)
    rw [← code_shortestDecimal finite, ← least_eq] at small
    have place := point_le_of_code_lt nonzero small
    omega
  · rcases Nat.eq_or_lt_of_le large with equal | beyond
    · -- The bound itself is a power of ten, and the shortest decimal of it is exact.
      have exact : shortestDecimal (nearestCode 10000000 1) = ⟨1, 7⟩ := by decide +kernel
      rw [← equal, exact]
      decide
    · rw [← code_shortestDecimal finite, ← bound_eq] at beyond
      have place := lt_point_of_code_lt beyond
      omega

end

/-! ## The shape of a display

A number and its display are of one kind, and both are told by the code. -/

section

variable {value : Float}

theorem unpack_eq (number : codeOf value ≤ infinityCode) :
    value.toModel.unpack = parts (signOf (isNegative value)) (codeOf value) := by
  have unpacked := unpack_ofCode (isNegative value) number
  rwa [ofCode_codeOf] at unpacked

theorem isNaN_eq (value : Float) : value.isNaN = isNotANumber value := by
  rcases Nat.lt_or_ge infinityCode (codeOf value) with beyond | number
  · rw [eq_notANumber beyond]
    decide +kernel
  · have comparable : isNotANumber value = false := decide_eq_false (Nat.not_lt.mpr number)
    rw [comparable, Float.isNaN, Float.Model.isNaN, unpack_eq number, parts]
    split
    · rfl
    · split <;> rfl

theorem isInf_eq (number : codeOf value ≤ infinityCode) :
    value.isInf = decide (codeOf value = infinityCode) := by
  rw [Float.isInf, Float.Model.isInf, unpack_eq number, parts]
  split
  · rename_i infinite
    rw [decide_eq_true infinite]
    rfl
  · rename_i finite
    rw [decide_eq_false finite]
    split <;> rfl

theorem shapeOf_of_lt (finite : codeOf value < infinityCode) :
    shapeOf value =
      if isPositional (codeOf value) then .positional (isNegative value)
      else .scientific (isNegative value) := by
  have number : isNotANumber value = false := decide_eq_false (Nat.lt_asymm finite)
  rw [shapeOf, isNaN_eq, number, isInf_eq (Nat.le_of_lt finite),
    decide_eq_false (Nat.ne_of_lt finite)]
  simp only [Bool.false_eq_true, if_false, isPlain_iff_isPositional]

theorem shapeOf_of_eq (infinite : codeOf value = infinityCode) :
    shapeOf value = .infinite (isNegative value) := by
  have number : isNotANumber value = false :=
    decide_eq_false (infinite ▸ Nat.lt_irrefl infinityCode)
  rw [shapeOf, isNaN_eq, number, isInf_eq (Nat.le_of_eq infinite), decide_eq_true infinite]
  rfl

theorem shapeOf_of_gt (beyond : infinityCode < codeOf value) : shapeOf value = .notANumber := by
  have nan : isNotANumber value = true := decide_eq_true beyond
  rw [shapeOf, isNaN_eq, nan, if_pos rfl]

theorem shaped_positional (negative : Bool) {code : Nat} (positional : isPositional code = true) :
    Shaped (.positional negative)
      (minusIf negative ++ positionalText (shortestDecimal code)) := by
  by_cases zero : code = 0
  · subst zero
    have text : positionalText (shortestDecimal 0) = ['0'] ++ '.' :: ['0'] := by decide +kernel
    rw [text]
    exact .positional negative ⟨by decide, by decide, .inl rfl⟩ (by decide)
      ⟨by decide, by decide, .inl rfl⟩
  · have finite := lt_infinityCode_of_isPositional positional
    exact shaped_positionalText negative (shortestDecimal_last finite zero)
      (point_le_of_isPositional zero positional)

theorem shaped_scientific (negative : Bool) {code : Nat} (finite : code < infinityCode)
    (other : ¬isPositional code = true) :
    Shaped (.scientific negative)
      (minusIf negative ++ scientificText (shortestDecimal code)) := by
  have some : code ≠ 0 := fun zero => other (zero ▸ rfl)
  exact shaped_scientificText negative (shortestDecimal_last finite some)
    (point_outside finite other)

theorem shaped_displayText (value : Float) : Shaped (shapeOf value) (displayText value) := by
  rcases Nat.lt_trichotomy (codeOf value) infinityCode with finite | infinite | beyond
  · rw [shapeOf_of_lt finite, displayText_of_lt finite]
    by_cases positional : isPositional (codeOf value) = true
    · rw [if_pos positional, if_pos positional]
      exact shaped_positional (isNegative value) positional
    · rw [if_neg positional, if_neg positional]
      exact shaped_scientific (isNegative value) finite positional
  · rw [shapeOf_of_eq infinite, displayText_of_eq infinite]
    exact .infinite (isNegative value)
  · rw [shapeOf_of_gt beyond, displayText_of_gt beyond]
    exact .notANumber

end

/-- A display has one shape only, and that is the shape of the number. -/
theorem shaped_displayText_iff (value : Float) (shape : Shape) :
    Shaped shape (displayText value) ↔ shape = shapeOf value := by
  constructor
  · intro shaped
    exact shaped.shapeOfText_eq.symm.trans (shaped_displayText value).shapeOfText_eq
  · rintro rfl
    exact shaped_displayText value

end DeskCalculator.Number
