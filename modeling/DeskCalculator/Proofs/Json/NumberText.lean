import DeskCalculator.Json.NumberText
import DeskCalculator.Proofs.Number.Shape

/-! A number ends where its longest beginning ends, so what stands behind it decides whether it is
read as it is written. Natural numbers of 64 bits are in range. -/

namespace DeskCalculator.Json

open Text Number

/-! ## Writing -/

inductive WritesFraction : Option (List Char) → List Char → Prop
  | none : WritesFraction none []
  | some {digits : List Char} (all : Throughout isDigit digits) (nonempty : digits ≠ []) :
      WritesFraction (some digits) ('.' :: digits)

inductive WritesExponent : Option Int → List Char → Prop
  | none : WritesExponent none []
  | some {mark : Char} {sign digits : List Char} (marked : mark = 'e' ∨ mark = 'E')
      (signed : sign = [] ∨ sign = ['+'] ∨ sign = ['-']) (all : Throughout isDigit digits)
      (nonempty : digits ≠ []) :
      WritesExponent
        (some (if sign = ['-'] then -(naturalOfDigits digits : Int) else naturalOfDigits digits))
        (mark :: (sign ++ digits))

/-- What may be written for a number. -/
inductive WritesNumber : Token → List Char → Prop
  | parts (negative : Bool) {whole fractionText exponentText : List Char}
      {fraction : Option (List Char)} {exponent : Option Int} (isWhole : IsWhole whole)
      (writesFraction : WritesFraction fraction fractionText)
      (writesExponent : WritesExponent exponent exponentText) :
      WritesNumber (numberToken negative whole fraction exponent)
        (minusIf negative ++ (whole ++ (fractionText ++ exponentText)))

def isDigitOrPoint (character : Char) : Bool :=
  isDigit character || character == '.'

def isMark (character : Char) : Bool :=
  character == 'e' || character == 'E'

/-- A character that would belong to the number in front of it. -/
def continuesNumber (character : Char) : Bool :=
  isDigitOrPoint character || isMark character

/-! ## Reading -/

theorem notAhead_or {first second : Char → Bool} {text : List Char} :
    NotAhead (fun character => first character || second character) text ↔
      NotAhead first text ∧ NotAhead second text := by
  simp only [NotAhead, Bool.or_eq_false_iff]
  exact ⟨fun both => ⟨fun c m => (both c m).1, fun c m => (both c m).2⟩,
    fun both c m => ⟨both.1 c m, both.2 c m⟩⟩

section

variable {rest : List Char}

theorem cutDigits_append {digits : List Char} (all : Throughout isDigit digits)
    (nonempty : digits ≠ []) (stops : NotAhead isDigit rest) :
    cutDigits (digits ++ rest) = .ok (digits, rest) := by
  have some : digits.isEmpty = false := List.isEmpty_eq_false_iff.mpr nonempty
  rw [cutDigits, all.takeWhile_append stops, all.dropWhile_append stops, some]
  rfl

theorem cutWhole_append {digits : List Char} (whole : IsWhole digits)
    (stops : NotAhead isDigit rest) : cutWhole (digits ++ rest) = .ok (digits, rest) := by
  have proper : ¬(digits.head? = some '0' ∧ digits.length ≠ 1) := by
    rcases whole.first with rfl | first
    · decide
    · exact fun zero => first zero.1
  rw [cutWhole, cutDigits_append whole.digits whole.nonempty stops]
  exact if_neg proper

theorem cutFraction_append {fraction : Option (List Char)} {text : List Char}
    (writes : WritesFraction fraction text) (stops : NotAhead isDigitOrPoint rest) :
    cutFraction (text ++ rest) = .ok (fraction, rest) := by
  rcases notAhead_or.mp stops with ⟨noDigit, noPoint⟩
  cases writes with
  | none =>
      rw [List.nil_append]
      unfold cutFraction
      split
      · cases noPoint '.' rfl
      · rfl
  | some all nonempty =>
      rw [List.cons_append, cutFraction, cutDigits_append all nonempty noDigit]

theorem splitSign_append {sign digits : List Char}
    (signed : sign = [] ∨ sign = ['+'] ∨ sign = ['-']) (all : Throughout isDigit digits)
    (nonempty : digits ≠ []) :
    splitSign (sign ++ (digits ++ rest)) = (decide (sign = ['-']), digits ++ rest) := by
  rcases signed with rfl | rfl | rfl
  · rcases List.exists_cons_of_ne_nil nonempty with ⟨first, others, rfl⟩
    exact splitSign_of_isDigit (all first (List.mem_cons_self ..))
  · rfl
  · rfl

theorem cutExponent_append {exponent : Option Int} {text : List Char}
    (writes : WritesExponent exponent text) (stops : NotAhead continuesNumber rest) :
    cutExponent (text ++ rest) = .ok (exponent, rest) := by
  rcases notAhead_or.mp stops with ⟨noDigits, noMark⟩
  cases writes with
  | none =>
      rw [List.nil_append]
      cases rest with
      | nil => rfl
      | cons mark rest =>
          have unmarked : (mark == 'e' || mark == 'E') = false := noMark mark rfl
          rw [cutExponent, unmarked]
          rfl
  | @some mark sign digits marked signed all nonempty =>
      have isMark : (mark == 'e' || mark == 'E') = true := by
        rcases marked with rfl | rfl <;> rfl
      rw [List.cons_append, List.append_assoc, cutExponent, if_pos isMark,
        splitSign_append signed all nonempty]
      dsimp only
      rw [cutDigits_append all nonempty (notAhead_or.mp noDigits).1]
      simp only [decide_eq_true_eq]

/-! What stands behind the parts that are read before is a part again, or the end. -/

theorem notAhead_fraction {fraction : Option (List Char)} {text : List Char}
    (writes : WritesFraction fraction text) (stops : NotAhead isDigit rest) :
    NotAhead isDigit (text ++ rest) := by
  cases writes with
  | none => exact stops
  | some all nonempty => exact (notAhead_cons _ _).mpr (by decide)

theorem notAhead_exponent {exponent : Option Int} {text : List Char}
    (writes : WritesExponent exponent text) (stops : NotAhead isDigitOrPoint rest) :
    NotAhead isDigitOrPoint (text ++ rest) := by
  cases writes with
  | none => exact stops
  | some marked =>
      rw [List.cons_append, notAhead_cons]
      rcases marked with rfl | rfl <;> decide

theorem cutParts_append {whole fractionText exponentText : List Char}
    {fraction : Option (List Char)} {exponent : Option Int} (isWhole : IsWhole whole)
    (writesFraction : WritesFraction fraction fractionText)
    (writesExponent : WritesExponent exponent exponentText)
    (stops : NotAhead continuesNumber rest) :
    cutParts (whole ++ (fractionText ++ (exponentText ++ rest))) =
      .ok ((whole, fraction, exponent), rest) := by
  have behindFraction := notAhead_exponent writesExponent (notAhead_or.mp stops).1
  have behindWhole := notAhead_fraction writesFraction (notAhead_or.mp behindFraction).1
  rw [cutParts, cutWhole_append isWhole behindWhole]
  dsimp only
  rw [cutFraction_append writesFraction behindFraction]
  dsimp only
  rw [cutExponent_append writesExponent stops]

theorem cutNumber_append {token : Token} {text : List Char} (writes : WritesNumber token text)
    (stops : NotAhead continuesNumber rest) : cutNumber (text ++ rest) = .ok (token, rest) := by
  rcases writes with ⟨negative, isWhole, writesFraction, writesExponent⟩
  have parts := cutParts_append isWhole writesFraction writesExponent stops
  simp only [List.append_assoc]
  cases negative with
  | true =>
      rw [cutNumber]
      simp only [minusIf, if_true, List.singleton_append, List.head?_cons, BEq.rfl, List.drop_one,
        List.tail_cons, parts]
  | false =>
      rename_i whole fractionText exponentText fraction exponent
      rcases List.exists_cons_of_ne_nil isWhole.nonempty with ⟨first, others, rfl⟩
      have digit := isWhole.digits first (List.mem_cons_self ..)
      have noMinus : (some first == some '-') = false := by
        simpa using beq_eq_false_of_property digit (by decide : isDigit '-' = false)
      rw [cutNumber]
      simp only [minusIf, Bool.false_eq_true, if_false, List.nil_append, List.cons_append,
        List.head?_cons, noMinus] at parts ⊢
      rw [parts]

end

/-! ## Natural numbers in range -/

theorem le_foldl_digits (digits : List Char) (value : Nat) :
    value ≤ digits.foldl (fun value digit => 10 * value + digitValue digit) value := by
  induction digits generalizing value with
  | nil => exact Nat.le_refl _
  | cons digit digits induction =>
      have longer := induction (10 * value + digitValue digit)
      rw [List.foldl_cons]
      omega

theorem appendFitting_eq {digits : List Char} {significand : Nat}
    (fits : digits.foldl (fun value digit => 10 * value + digitValue digit) significand <
      wordBound) :
    appendFitting significand digits =
      (digits.foldl (fun value digit => 10 * value + digitValue digit) significand, []) := by
  induction digits generalizing significand with
  | nil => rfl
  | cons digit digits induction =>
      rw [List.foldl_cons] at fits ⊢
      have shorter := le_foldl_digits digits (10 * significand + digitValue digit)
      simp only [appendFitting]
      rw [if_pos (Nat.lt_of_le_of_lt shorter fits), induction fits]

theorem productCode_one {code : Nat} (finite : code < infinityCode) :
    productCode code (Decimal.code ⟨1, .ofNat 0⟩) = code := by
  have one : unitsOfCode (Decimal.code ⟨1, .ofNat 0⟩) = unitsOfOne := by decide +kernel
  rw [productCode, one, nearestCode_mul_right _ _ unitsOfOne_pos,
    nearestCode_unitsOfCode finite]

theorem code_lt_infinityCode_of_lt_wordBound {value : Nat} (bounded : value < wordBound) :
    Decimal.code ⟨value, 0⟩ < infinityCode := by
  have largest : Decimal.code ⟨wordBound, 0⟩ < infinityCode := by decide +kernel
  refine Nat.lt_of_le_of_lt (Decimal.code_mono ?_) largest
  rw [Decimal.value, Decimal.value, zpow_zero, mul_one, mul_one]
  exact_mod_cast Nat.le_of_lt bounded

theorem isInRange_ofNat (digits power : Nat) :
    isInRange ⟨digits, .ofNat power⟩ = (digits == 0 || power ≤ 308 &&
      productCode (Decimal.code ⟨digits, 0⟩) (Decimal.code ⟨1, .ofNat power⟩) < infinityCode) :=
  rfl

theorem isInRange_natural {value : Nat} (bounded : value < wordBound) :
    isInRange ⟨value, 0⟩ = true := by
  have finite := code_lt_infinityCode_of_lt_wordBound bounded
  have product : productCode (Decimal.code ⟨value, 0⟩) (Decimal.code ⟨1, .ofNat 0⟩) <
      infinityCode := by
    rwa [productCode_one finite]
  refine (isInRange_ofNat value 0).trans ?_
  rw [decide_eq_true product]
  exact Bool.or_true _

theorem writesNumber_natural {digits : List Char} (whole : IsWhole digits)
    (bounded : naturalOfDigits digits < wordBound) :
    WritesNumber (.number (some (naturalOfDigits digits)) true) digits := by
  have parts := WritesNumber.parts false whole .none .none
  have estimated : estimate digits [] 0 = ⟨naturalOfDigits digits, 0⟩ := by
    rw [estimate, appendFitting_eq bounded]
    rfl
  have token : numberToken false digits none none =
      .number (some (naturalOfDigits digits)) true := by
    simp only [numberToken, Option.getD_none, estimated, isInRange_natural bounded]
    rfl
  rw [token] at parts
  simpa only [minusIf, Bool.false_eq_true, if_false, List.nil_append, List.append_nil] using parts

end DeskCalculator.Json
