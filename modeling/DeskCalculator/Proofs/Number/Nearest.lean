import DeskCalculator.Proofs.Number.Monotone
import DeskCalculator.Proofs.Number.Shape

/-! Rounding takes a fraction to the magnitude that is nearest to it, of two equally near to the
one with the even code. Nothing is nearer among all doubles, whatever their sign, and what
lies half a step beyond the largest of them is infinite. -/

namespace DeskCalculator.Number

open Float.Model

/-! ## Magnitudes -/

/-- The size of the magnitude with a code. From the code of infinity on, sizes go on as if
there were no largest exponent. -/
def magnitude (code : Nat) : ℚ :=
  unitsOfCode code / unitsOfOne

theorem cast_unitsOfOne_pos : (0 : ℚ) < unitsOfOne :=
  Nat.cast_pos.mpr unitsOfOne_pos

/-- A significand of up to 53 bits may be one larger: then it is the smallest of the next
binade. -/
theorem unitsOfCode_place {spaces quotient : Nat} (bounded : quotient ≤ 2 * binade)
    (full : spaces = 0 ∨ binade ≤ quotient) :
    unitsOfCode (spaces * binade + quotient) = quotient * Nat.pow 2 spaces := by
  have positive := binade_pos
  rcases Nat.lt_or_ge quotient binade with short | long
  · rcases full with rfl | long
    · rw [Nat.zero_mul, Nat.zero_add, unitsOfCode, if_pos short]
      exact (Nat.mul_one quotient).symm
    · exact absurd long (Nat.not_le_of_lt short)
  · have beyond : ¬spaces * binade + quotient < binade := by omega
    rw [unitsOfCode, if_neg beyond]
    rcases Nat.lt_or_eq_of_le bounded with within | carried
    · have place : spaces * binade + quotient = (quotient - binade) + binade * (spaces + 1) := by
        rw [Nat.mul_succ, Nat.mul_comm binade]
        omega
      have small : quotient - binade < binade := by omega
      rw [place, Nat.add_mul_mod_self_left, Nat.mod_eq_of_lt small,
        Nat.add_mul_div_left _ _ positive, Nat.div_eq_of_lt small, Nat.zero_add,
        Nat.add_sub_cancel, Nat.add_sub_cancel' long]
    · have place : spaces * binade + quotient = binade * (spaces + 2) := by
        rw [carried, Nat.mul_add, Nat.mul_comm binade, Nat.mul_comm binade]
      rw [place, Nat.mul_mod_right, Nat.mul_div_cancel_left _ positive, carried, Nat.add_zero,
        Nat.mul_comm 2, Nat.mul_assoc]
      exact congrArg (binade * ·) (Nat.pow_succ' : 2 ^ (spaces + 1) = 2 * 2 ^ spaces)

theorem unitsOfCode_strictMono : StrictMono unitsOfCode := by
  intro left right less
  have positive (power : Nat) : 0 < Nat.pow 2 power := Nat.two_pow_pos power
  rw [unitsOfCode_eq, unitsOfCode_eq]
  rcases spacing_lt_or_significand_lt less with closer | ⟨alike, smaller⟩
  · have normal : binade ≤ significand right :=
      (spacing_eq_zero_or_binade_le right).resolve_left (Nat.ne_of_gt (Nat.zero_lt_of_lt closer))
    calc
      significand left * Nat.pow 2 (spacing left) < 2 * binade * Nat.pow 2 (spacing left) :=
        Nat.mul_lt_mul_of_pos_right (significand_lt left) (positive _)
      _ = binade * Nat.pow 2 (spacing left + 1) := by
        rw [Nat.mul_comm 2, Nat.mul_assoc]
        exact congrArg (binade * ·) (Nat.pow_succ' : 2 ^ (spacing left + 1) = _).symm
      _ ≤ binade * Nat.pow 2 (spacing right) :=
        Nat.mul_le_mul_left _ (Nat.pow_le_pow_right Nat.two_pos closer)
      _ ≤ significand right * Nat.pow 2 (spacing right) := Nat.mul_le_mul_right _ normal
  · rw [alike]
    exact Nat.mul_lt_mul_of_pos_right smaller (positive _)

theorem magnitude_strictMono : StrictMono magnitude := by
  intro left right less
  have units : (unitsOfCode left : ℚ) < unitsOfCode right := by
    exact_mod_cast unitsOfCode_strictMono less
  exact div_lt_div_of_pos_right units cast_unitsOfOne_pos

/-! ## The nearest code

A fraction lies between two neighbouring magnitudes, and its code is that of the nearer. -/

/-- No other magnitude is nearer, and if another one is as near, the code is even. -/
def IsNearestCode (exact : ℚ) (code : Nat) : Prop :=
  ∀ other ≠ code,
    |exact - magnitude code| < |exact - magnitude other| ∨
      |exact - magnitude code| = |exact - magnitude other| ∧ code % 2 = 0

section

variable {exact : ℚ} {below : Nat}

theorem abs_sub_of_le_below (above : magnitude below ≤ exact) {code : Nat} (le : code ≤ below) :
    |exact - magnitude code| = exact - magnitude code :=
  abs_of_nonneg (sub_nonneg.mpr ((magnitude_strictMono.monotone le).trans above))

theorem abs_sub_of_above_le (under : exact < magnitude (below + 1)) {code : Nat}
    (le : below + 1 ≤ code) : |exact - magnitude code| = magnitude code - exact := by
  have beyond := magnitude_strictMono.monotone le
  rw [abs_of_neg (by linarith), neg_sub]

theorem isNearestCode_below (above : magnitude below ≤ exact)
    (under : exact < magnitude (below + 1))
    (nearer : exact - magnitude below < magnitude (below + 1) - exact ∨
      exact - magnitude below = magnitude (below + 1) - exact ∧ below % 2 = 0) :
    IsNearestCode exact below := by
  intro other different
  rw [abs_sub_of_le_below above (Nat.le_refl below)]
  rcases Nat.lt_or_gt_of_ne different with smaller | larger
  · have less := magnitude_strictMono smaller
    rw [abs_sub_of_le_below above (Nat.le_of_lt smaller)]
    exact .inl (by linarith)
  · have le := magnitude_strictMono.monotone larger
    rw [abs_sub_of_above_le under larger]
    rcases Nat.eq_or_lt_of_le larger with next | further
    · rw [← next]
      exact nearer
    · have less := magnitude_strictMono further
      rcases nearer with nearer | ⟨tied, -⟩
      · exact .inl (by linarith)
      · exact .inl (by linarith)

theorem isNearestCode_above (above : magnitude below ≤ exact)
    (under : exact < magnitude (below + 1))
    (nearer : magnitude (below + 1) - exact < exact - magnitude below ∨
      magnitude (below + 1) - exact = exact - magnitude below ∧ (below + 1) % 2 = 0) :
    IsNearestCode exact (below + 1) := by
  intro other different
  rw [abs_sub_of_above_le under (Nat.le_refl _)]
  rcases Nat.lt_or_gt_of_ne different with smaller | larger
  · have le : other ≤ below := Nat.le_of_lt_succ smaller
    rw [abs_sub_of_le_below above le]
    rcases Nat.eq_or_lt_of_le le with same | further
    · rw [same]
      exact nearer
    · have less := magnitude_strictMono further
      rcases nearer with nearer | ⟨tied, -⟩
      · exact .inl (by linarith)
      · exact .inl (by linarith)
  · have less := magnitude_strictMono larger
    rw [abs_sub_of_above_le under (Nat.le_of_lt larger)]
    exact .inl (by linarith)

end

/-- The code that a fraction would be rounded to if there were no largest exponent. -/
def unboundedCode (numerator denominator : Nat) : Nat :=
  let units := numerator * unitsOfOne
  let spaces := (units / denominator).log2 - 52
  spaces * binade + nearestQuotient units (denominator * Nat.pow 2 spaces)

theorem nearestCode_eq_min (numerator denominator : Nat) :
    nearestCode numerator denominator =
      min infinityCode (unboundedCode numerator denominator) :=
  rfl

/-! The differences between a fraction and the magnitudes around it are to each other as the
remainder of its division is to what the remainder lacks to the divisor. -/

section

variable {numerator denominator spaces quotient remainder code : Nat}

theorem fraction_sub_magnitude (positive : 0 < denominator)
    (divided : denominator * Nat.pow 2 spaces * quotient + remainder = numerator * unitsOfOne)
    (units : unitsOfCode code = quotient * Nat.pow 2 spaces) :
    (numerator / denominator : ℚ) - magnitude code = remainder / (denominator * unitsOfOne) := by
  have cast : (denominator : ℚ) * Nat.pow 2 spaces * quotient + remainder =
      numerator * unitsOfOne := by
    exact_mod_cast divided
  have some : (denominator : ℚ) ≠ 0 := by exact_mod_cast Nat.ne_of_gt positive
  have one := cast_unitsOfOne_pos.ne'
  rw [magnitude, units, Nat.cast_mul, div_sub_div _ _ some one, ← cast]
  ring

theorem magnitude_sub_fraction (positive : 0 < denominator)
    (divided : denominator * Nat.pow 2 spaces * quotient + remainder = numerator * unitsOfOne)
    (units : unitsOfCode code = (quotient + 1) * Nat.pow 2 spaces) :
    magnitude code - (numerator / denominator : ℚ) =
      (denominator * Nat.pow 2 spaces - remainder) / (denominator * unitsOfOne) := by
  have cast : (denominator : ℚ) * Nat.pow 2 spaces * quotient + remainder =
      numerator * unitsOfOne := by
    exact_mod_cast divided
  have some : (denominator : ℚ) ≠ 0 := by exact_mod_cast Nat.ne_of_gt positive
  have one := cast_unitsOfOne_pos.ne'
  rw [magnitude, units, Nat.cast_mul, Nat.cast_succ, div_sub_div _ _ one some,
    mul_comm (unitsOfOne : ℚ) numerator, ← cast]
  ring

/-- The remainder decides which of the two neighbours of a fraction is nearest. -/
theorem isNearestCode_of_division (positive : 0 < denominator)
    (divided : denominator * Nat.pow 2 spaces * quotient + remainder = numerator * unitsOfOne)
    (small : remainder < denominator * Nat.pow 2 spaces) (bounded : quotient < 2 * binade)
    (full : spaces = 0 ∨ binade ≤ quotient) :
    IsNearestCode (numerator / denominator) (spaces * binade +
      if 2 * remainder < denominator * Nat.pow 2 spaces then quotient
      else if denominator * Nat.pow 2 spaces < 2 * remainder then quotient + 1
      else quotient + quotient % 2) := by
  have lower := fraction_sub_magnitude positive divided
    (unitsOfCode_place (Nat.le_of_lt bounded) full)
  have next : unitsOfCode (spaces * binade + quotient + 1) =
      (quotient + 1) * Nat.pow 2 spaces := by
    rw [Nat.add_assoc]
    exact unitsOfCode_place bounded (full.imp_right Nat.le_succ_of_le)
  have upper := magnitude_sub_fraction positive divided next
  have step : (0 : ℚ) < denominator * unitsOfOne :=
    mul_pos (Nat.cast_pos.mpr positive) cast_unitsOfOne_pos
  have lack : (remainder : ℚ) < denominator * Nat.pow 2 spaces := by exact_mod_cast small
  have above : magnitude (spaces * binade + quotient) ≤ numerator / denominator :=
    sub_nonneg.mp (lower ▸ div_nonneg (Nat.cast_nonneg _) step.le)
  have under : (numerator / denominator : ℚ) < magnitude (spaces * binade + quotient + 1) :=
    sub_pos.mp (upper ▸ div_pos (sub_pos.mpr lack) step)
  split
  · rename_i nearer
    refine isNearestCode_below above under (.inl ?_)
    have doubled : (2 : ℚ) * remainder < denominator * Nat.pow 2 spaces := by
      exact_mod_cast nearer
    rw [lower, upper]
    exact div_lt_div_of_pos_right (by linarith) step
  · split
    · rename_i further
      rw [← Nat.add_assoc]
      refine isNearestCode_above above under (.inl ?_)
      have doubled : (denominator * Nat.pow 2 spaces : ℚ) < 2 * remainder := by
        exact_mod_cast further
      rw [lower, upper]
      exact div_lt_div_of_pos_right (by linarith) step
    · have tied : 2 * remainder = denominator * Nat.pow 2 spaces := by omega
      have doubled : (2 : ℚ) * remainder = denominator * Nat.pow 2 spaces := by
        exact_mod_cast tied
      have same : (numerator / denominator : ℚ) - magnitude (spaces * binade + quotient) =
          magnitude (spaces * binade + quotient + 1) - numerator / denominator := by
        rw [lower, upper, ← doubled]
        ring
      have parity : (spaces * binade + quotient) % 2 = quotient % 2 := by
        rw [binade_eq]
        omega
      rcases Nat.mod_two_eq_zero_or_one quotient with even | odd
      · rw [even, Nat.add_zero]
        exact isNearestCode_below above under (.inr ⟨same, parity.trans even⟩)
      · rw [odd, ← Nat.add_assoc]
        exact isNearestCode_above above under (.inr ⟨same.symm, by omega⟩)

end

theorem isNearestCode_unboundedCode (numerator : Nat) {denominator : Nat}
    (positive : 0 < denominator) :
    IsNearestCode (numerator / denominator) (unboundedCode numerator denominator) := by
  have bounded := div_spacing_lt (numerator * unitsOfOne / denominator)
  have full : (numerator * unitsOfOne / denominator).log2 - 52 = 0 ∨ _ :=
    (Nat.eq_zero_or_pos _).imp_right fun spaced =>
      binade_le_div_spacing (Nat.ne_of_gt spaced)
  simp only [unboundedCode, nearestQuotient]
  generalize (numerator * unitsOfOne / denominator).log2 - 52 = spaces at *
  rw [Nat.div_div_eq_div_mul] at bounded full
  exact isNearestCode_of_division positive (Nat.div_add_mod _ _)
    (Nat.mod_lt _ (Nat.mul_pos positive (Nat.two_pow_pos spaces))) bounded full

/-! Below an even code lie the fractions up to the middle between it and the code in front of
it; the middle itself belongs to the even code. -/

theorem IsNearestCode.lt_iff {exact : ℚ} {code last : Nat} (nearest : IsNearestCode exact code)
    (odd : last % 2 = 1) :
    code < last + 1 ↔ 2 * exact < magnitude last + magnitude (last + 1) := by
  have step := magnitude_strictMono (Nat.lt_succ_self last)
  constructor
  · intro before
    by_contra reached
    have le := magnitude_strictMono.monotone (Nat.le_of_lt_succ before)
    have there := nearest (last + 1) (Nat.ne_of_gt before)
    rw [abs_of_nonneg (by linarith)] at there
    rcases abs_cases (exact - magnitude (last + 1)) with ⟨size, -⟩ | ⟨size, -⟩
    · rcases there with nearer | ⟨tied, -⟩ <;> linarith
    · rcases there with nearer | ⟨tied, even⟩
      · linarith
      · have same : code = last :=
          magnitude_strictMono.injective (le_antisymm le (by linarith))
        omega
  · intro early
    by_contra beyond
    have le := magnitude_strictMono.monotone (Nat.le_of_not_lt beyond)
    have there := nearest last (by omega)
    rw [abs_of_neg (by linarith)] at there
    rcases abs_cases (exact - magnitude last) with ⟨size, -⟩ | ⟨size, -⟩
    · rcases there with nearer | ⟨tied, -⟩ <;> linarith
    · rcases there with nearer | ⟨tied, -⟩ <;> linarith

/-! ## Doubles -/

/-- The rational number that a double is, if it is finite. -/
def rational? (value : Float) : Option ℚ :=
  match value.toModel.unpack with
  | .zero _ => some 0
  | .finite .positive significand power _ => some (significand * 2 ^ power)
  | .finite .negative significand power _ => some (-(significand * 2 ^ power))
  | .infinity _ | .notANumber => none

theorem magnitude_eq (code : Nat) :
    magnitude code = significand code * 2 ^ ((spacing code : Int) - 1074) := by
  have one : (unitsOfOne : ℚ) = 2 ^ (1074 : ℤ) := by
    rcases exists_unitsOfOne_eq with ⟨exponent, exponent_eq, units_eq : unitsOfOne = 2 ^ exponent⟩
    have cast : ((1074 : ℕ) : ℤ) = 1074 := rfl
    rw [units_eq, Nat.cast_pow, Nat.cast_two, ← cast, ← exponent_eq, zpow_natCast]
  rw [magnitude, unitsOfCode_eq, one, zpow_sub₀ two_ne_zero, zpow_natCast, Nat.cast_mul,
    Nat.pow_eq, Nat.cast_pow, Nat.cast_two, mul_div_assoc]

theorem magnitude_zero : magnitude 0 = 0 := by
  rw [magnitude]
  exact zero_div _

theorem magnitude_nonneg (code : Nat) : 0 ≤ magnitude code :=
  magnitude_zero ▸ magnitude_strictMono.monotone (Nat.zero_le code)

/-! The middles around the largest finite magnitude and around the smallest that is normal. -/

theorem middle_of_overflow :
    magnitude 0x7FEFFFFFFFFFFFFF + magnitude infinityCode = 2 * (2 ^ 1024 - 2 ^ 970) := by
  have last : magnitude 0x7FEFFFFFFFFFFFFF = (2 ^ 53 - 1 : ℕ) * 2 ^ (971 : ℤ) :=
    magnitude_eq 0x7FEFFFFFFFFFFFFF
  have beyond : magnitude infinityCode = (2 ^ 52 : ℕ) * 2 ^ (972 : ℤ) :=
    magnitude_eq infinityCode
  have large : (2 : ℚ) ^ 1024 = 2 ^ 54 * 2 ^ 970 := pow_add 2 54 970
  have shifted (shift power : ℕ) :
      (2 : ℚ) ^ ((shift + power : ℕ) : ℤ) = 2 ^ shift * 2 ^ power := by
    rw [zpow_natCast, pow_add]
  have once : (2 : ℚ) ^ (971 : ℤ) = 2 ^ 1 * 2 ^ 970 := shifted 1 970
  have twice : (2 : ℚ) ^ (972 : ℤ) = 2 ^ 2 * 2 ^ 970 := shifted 2 970
  rw [last, beyond, large, once, twice]
  generalize (2 : ℚ) ^ 970 = step
  norm_num
  ring

theorem middle_of_underflow :
    magnitude 0xFFFFFFFFFFFFF + magnitude binade = 2 * (2 ^ (-1022 : ℤ) - 2 ^ (-1075 : ℤ)) := by
  have last : magnitude 0xFFFFFFFFFFFFF = (2 ^ 52 - 1 : ℕ) * 2 ^ (-1074 : ℤ) :=
    magnitude_eq 0xFFFFFFFFFFFFF
  have normal : magnitude binade = (2 ^ 52 : ℕ) * 2 ^ (-1074 : ℤ) := magnitude_eq binade
  have small : (2 : ℚ) ^ (-1074 : ℤ) = 2 ^ (1 : ℤ) * 2 ^ (-1075 : ℤ) :=
    zpow_add₀ two_ne_zero 1 (-1075)
  have large : (2 : ℚ) ^ (-1022 : ℤ) = 2 ^ (53 : ℤ) * 2 ^ (-1075 : ℤ) :=
    zpow_add₀ two_ne_zero 53 (-1075)
  rw [last, normal, small, large]
  generalize (2 : ℚ) ^ (-1075 : ℤ) = step
  norm_num
  ring

section

variable {value : Float}

theorem rational?_of_lt (finite : codeOf value < infinityCode) :
    rational? value = some
      (if isNegative value then -magnitude (codeOf value) else magnitude (codeOf value)) := by
  have parted := unpack_eq (Nat.le_of_lt finite)
  rcases parts_cases (signOf (isNegative value)) (Nat.le_of_lt finite) with
    ⟨zero, equal⟩ | ⟨positive, -, -, equal⟩ | ⟨infinite, -⟩
  · rw [rational?, parted, equal, zero, magnitude_zero, neg_zero, ite_self]
  · rw [rational?, parted, equal, magnitude_eq]
    cases isNegative value <;> rfl
  · exact absurd infinite (Nat.ne_of_lt finite)

theorem rational?_of_le (large : infinityCode ≤ codeOf value) : rational? value = none := by
  rcases Nat.eq_or_lt_of_le large with infinite | beyond
  · have parted := unpack_eq (Nat.le_of_eq infinite.symm)
    rw [← infinite, parts_infinityCode] at parted
    rw [rational?, parted]
  · have unpacked : notANumber.toModel.unpack = .notANumber := rfl
    rw [eq_notANumber beyond, rational?, unpacked]

/-- What a finite double is, for all that is not negative it is no nearer than its size. -/
theorem exists_magnitude_of_rational? {size exact : ℚ} (found : rational? value = some size)
    (positive : 0 ≤ exact) :
    codeOf value < infinityCode ∧ (size = magnitude (codeOf value) ∨
      size = -magnitude (codeOf value) ∧
        |exact - magnitude (codeOf value)| ≤ |exact - size|) := by
  have finite : codeOf value < infinityCode := by
    by_contra large
    rw [rational?_of_le (Nat.le_of_not_lt large)] at found
    cases found
  have nonneg := magnitude_nonneg (codeOf value)
  rw [rational?_of_lt finite, Option.some.injEq] at found
  refine ⟨finite, ?_⟩
  subst found
  split
  · refine .inr ⟨rfl, ?_⟩
    rw [abs_of_nonneg (by linarith : 0 ≤ exact - -magnitude (codeOf value))]
    exact abs_sub_le_iff.mpr ⟨by linarith, by linarith⟩
  · exact .inl rfl

end

/-- The double that a rational number, not a negative one, is rounded to: the nearest of all
that are finite, of two equally near the one whose last bit is not set, and infinity from
half a step beyond the largest on. It is zero or subnormal below the middle between the
largest subnormal number and the next. -/
structure IsNearest (exact : ℚ) (value : Float) : Prop where
  unsigned : value.toBits.toNat < 2 ^ 63
  number : value.isNaN = false
  infinite_iff : value.toBits = 0x7FF0000000000000 ↔ 2 ^ 1024 - 2 ^ 970 ≤ exact
  small_iff : value.toBits.toNat < 2 ^ 52 ↔ exact < 2 ^ (-1022 : ℤ) - 2 ^ (-1075 : ℤ)
  nearest : exact < 2 ^ 1024 - 2 ^ 970 → ∃ size, rational? value = some size ∧
    ∀ other otherSize, rational? other = some otherSize → otherSize ≠ size →
      |exact - size| < |exact - otherSize| ∨
        |exact - size| = |exact - otherSize| ∧ value.toBits.toNat % 2 = 0

theorem toNat_toBits_unsigned {code : Nat} (bounded : code ≤ infinityCode) :
    (ofCode false code).toBits.toNat = code :=
  (toNat_toBits_ofCode false bounded).trans (Nat.zero_add code)

namespace IsNearestCode

variable {exact : ℚ} {code : Nat}

theorem lt_infinityCode_iff (nearest : IsNearestCode exact code) :
    code < infinityCode ↔ exact < 2 ^ 1024 - 2 ^ 970 := by
  have middle := middle_of_overflow
  have limit : infinityCode = 0x7FEFFFFFFFFFFFFF + 1 := by decide
  rw [limit] at middle ⊢
  rw [nearest.lt_iff (by decide), middle]
  exact mul_lt_mul_iff_right₀ two_pos

theorem lt_binade_iff (nearest : IsNearestCode exact code) :
    code < binade ↔ exact < 2 ^ (-1022 : ℤ) - 2 ^ (-1075 : ℤ) := by
  have middle := middle_of_underflow
  have limit : binade = 0xFFFFFFFFFFFFF + 1 := by decide
  rw [limit] at middle ⊢
  rw [nearest.lt_iff (by decide), middle]
  exact mul_lt_mul_iff_right₀ two_pos

/-- Of two doubles of one size only the one with the right sign is as near as this, unless
they are zeros. -/
theorem nearer_than_double (nearest : IsNearestCode exact code) (positive : 0 ≤ exact)
    {other : Float} {size : ℚ} (found : rational? other = some size)
    (different : size ≠ magnitude code) :
    |exact - magnitude code| < |exact - size| ∨
      |exact - magnitude code| = |exact - size| ∧ code % 2 = 0 := by
  rcases exists_magnitude_of_rational? found positive with ⟨-, rfl | ⟨rfl, further⟩⟩
  · exact nearest _ fun equal => different (congrArg magnitude equal)
  · by_cases same : codeOf other = code
    · rw [same] at different further ⊢
      rcases lt_or_eq_of_le further with nearer | tied
      · exact .inl nearer
      · have nonneg := magnitude_nonneg code
        have some : 0 < magnitude code := by
          refine lt_of_le_of_ne nonneg fun zero => different ?_
          rw [← zero, neg_zero]
        have none : exact = 0 := by
          rw [abs_of_nonneg (by linarith : 0 ≤ exact - -magnitude code)] at tied
          rcases abs_cases (exact - magnitude code) with ⟨size, -⟩ | ⟨size, -⟩ <;> linarith
        have notZero : (0 : Nat) ≠ code := by
          rintro rfl
          exact some.ne' magnitude_zero
        have atZero := nearest 0 notZero
        rw [none, magnitude_zero, sub_zero, abs_zero, zero_sub, abs_neg, abs_of_pos some] at atZero
        rcases atZero with nearer | ⟨equal, -⟩ <;> linarith
    · rcases nearest _ same with nearer | ⟨tied, even⟩
      · exact .inl (lt_of_lt_of_le nearer further)
      · rcases lt_or_eq_of_le further with nearer | equal
        · exact .inl (tied ▸ nearer)
        · exact .inr ⟨tied.trans equal, even⟩

end IsNearestCode

theorem Decimal.isNearest (decimal : Decimal) :
    IsNearest decimal.value (ofCode false decimal.code) := by
  have bounded := decimal.code_le_infinityCode
  have bits := toNat_toBits_unsigned bounded
  have positive : 0 ≤ decimal.value := by
    unfold Decimal.value
    positivity
  rcases exists_value_eq_div decimal with ⟨numerator, denominator, divides, value⟩
  have nearest := isNearestCode_unboundedCode numerator divides
  have rounded := code_eq_of_value_eq_div divides value
  rw [nearestCode_eq_min] at rounded
  rw [← value] at nearest
  generalize unboundedCode numerator denominator = code at nearest rounded
  refine ⟨?_, ?_, ?_, ?_, fun finite => ?_⟩
  · rw [bits]
    exact Nat.lt_of_le_of_lt bounded (by decide)
  · rw [isNaN_eq, isNotANumber, codeOf_ofCode false bounded]
    exact decide_eq_false (Nat.not_lt_of_le bounded)
  · rw [← UInt64.toNat_inj, bits, rounded, ← not_lt, ← nearest.lt_infinityCode_iff, not_lt]
    exact min_eq_left_iff
  · rw [bits, rounded, ← nearest.lt_binade_iff]
    have normal : ¬infinityCode < 2 ^ 52 := by decide
    exact min_lt_iff.trans (or_iff_right normal)
  · have small := nearest.lt_infinityCode_iff.mpr finite
    rw [Nat.min_eq_right (Nat.le_of_lt small)] at rounded
    have unsigned : isNegative (ofCode false decimal.code) = false := by
      rw [isNegative, bits, rounded]
      exact decide_eq_false (Nat.not_le_of_lt (Nat.lt_trans small (by decide)))
    have size : rational? (ofCode false decimal.code) = some (magnitude code) := by
      rw [rational?_of_lt, unsigned, codeOf_ofCode false bounded, rounded]
      · rfl
      · rwa [codeOf_ofCode false bounded, rounded]
    refine ⟨magnitude code, size, fun other otherSize found different => ?_⟩
    rw [bits, rounded]
    exact nearest.nearer_than_double positive found different

end DeskCalculator.Number
