import DeskCalculator.Proofs.Number.Digits
import DeskCalculator.Proofs.Number.Monotone
import DeskCalculator.Proofs.Number.Shortest

/-! If a decimal reads back, so does a neighbour of the exact value on the grid of as many
digits or on a coarser one. The search starts with the coarsest grid of all, so it finds a
decimal with as few digits as there can be. -/

namespace DeskCalculator.Number

open Decimal Text

variable {code grid count : Nat}

theorem value_onGrid (grid count : Nat) :
    (onGrid grid count).value = (count * 10 ^ grid : ℕ) * 10 ^ (-1074 : Int) := by
  have exponent : (grid : Int) - 1074 = grid + -1074 := by omega
  rw [onGrid, value, exponent, zpow_add₀ (by norm_num), zpow_natCast, ← mul_assoc,
    Nat.cast_mul, Nat.cast_pow, Nat.cast_ofNat]

theorem value_onGrid_le_iff {otherGrid otherCount : Nat} :
    (onGrid grid count).value ≤ (onGrid otherGrid otherCount).value ↔
      count * 10 ^ grid ≤ otherCount * 10 ^ otherGrid := by
  rw [value_onGrid, value_onGrid, mul_le_mul_iff_left₀ (zpow_pos (by norm_num) _), Nat.cast_le]

/-! ## Neighbours of the exact value -/

/-- The point of the grid is the last one below the exact value, or the next. -/
def IsNeighbour (code grid count : Nat) : Prop :=
  count = exactDigits code / 10 ^ grid ∨ count = exactDigits code / 10 ^ grid + 1

theorem exists_of_neighbourOnGrid? {decimal : Decimal}
    (found : neighbourOnGrid? code grid = some decimal) :
    ∃ count, IsNeighbour code grid count ∧ decimal = onGrid grid count := by
  have member := List.mem_of_find?_eq_some found
  rcases List.mem_map.mp member with ⟨count, tried, rfl⟩
  refine ⟨count, ?_, rfl⟩
  split at tried
  · simpa [IsNeighbour] using tried
  · simpa [IsNeighbour, or_comm] using tried

theorem neighbourOnGrid?_ne_none (neighbour : IsNeighbour code grid count)
    (reads : (onGrid grid count).code = code) : neighbourOnGrid? code grid ≠ none := by
  intro nothing
  rw [neighbourOnGrid?, List.find?_eq_none] at nothing
  refine nothing (onGrid grid count) (List.mem_map_of_mem ?_) (beq_iff_eq.mpr reads)
  split
  · simpa [IsNeighbour] using neighbour
  · simpa [IsNeighbour, or_comm] using neighbour

/-- Rounding is monotone, so a point of the grid that reads back has a neighbour of the
exact value on its way there. -/
theorem exists_isNeighbour (finite : code < infinityCode)
    (reads : (onGrid grid count).code = code) :
    ∃ neighbour, IsNeighbour code grid neighbour ∧ (onGrid grid neighbour).code = code := by
  have exact := code_onGrid_zero finite
  rcases Nat.lt_or_ge (exactDigits code / 10 ^ grid) count with above | below
  · refine ⟨_, .inr rfl, code_eq_of_between exact reads ?_ ?_⟩
    · rw [value_onGrid_le_iff, Nat.pow_zero, Nat.mul_one, Nat.mul_comm]
      exact Nat.le_of_lt (Nat.lt_mul_div_succ _ (Nat.pow_pos (by decide)))
    · exact value_onGrid_le_iff.mpr (Nat.mul_le_mul_right _ above)
  · refine ⟨_, .inl rfl, code_eq_of_between reads exact ?_ ?_⟩
    · exact value_onGrid_le_iff.mpr (Nat.mul_le_mul_right _ below)
    · rw [value_onGrid_le_iff, Nat.pow_zero, Nat.mul_one]
      exact Nat.div_mul_le_self _ _

/-- The search does not go beyond a grid with a neighbour that reads back. -/
theorem exists_coarsestFrom {last : Nat} (le : grid ≤ last)
    (found : neighbourOnGrid? code grid ≠ none ∨ grid = 0) :
    ∃ coarser count, grid ≤ coarser ∧ coarser ≤ last ∧ IsNeighbour code coarser count ∧
      coarsestFrom code last = onGrid coarser count := by
  induction last with
  | zero =>
      have whole : exactDigits code / 10 ^ 0 = exactDigits code := Nat.div_one _
      exact ⟨0, exactDigits code, le, Nat.le_refl 0, .inl whole.symm, rfl⟩
  | succ last induction =>
      rw [coarsestFrom]
      cases tried : neighbourOnGrid? code (last + 1) with
      | some decimal =>
          rcases exists_of_neighbourOnGrid? tried with ⟨count, neighbour, rfl⟩
          exact ⟨last + 1, count, le, Nat.le_refl _, neighbour, rfl⟩
      | none =>
          have further : grid ≠ last + 1 := by
            rintro rfl
            exact found.elim (fun one => one tried) (Nat.succ_ne_zero last)
          rcases induction (by omega) with ⟨coarser, count, above, below, neighbour, equal⟩
          exact ⟨coarser, count, above, Nat.le_succ_of_le below, neighbour, equal⟩

/-! ## Counting digits -/

/-- How many digits the exact value has. -/
def exactLength (code : Nat) : Nat :=
  (digitsOfNatural (exactDigits code)).length

theorem exactLength_pos (code : Nat) : 0 < exactLength code :=
  Nat.length_toDigits_pos

/-- On a grid as many digits are left as stand in front of its step. The point behind the
last of them is a power of ten. -/
theorem length_stripped_onGrid_le (neighbour : IsNeighbour code grid count)
    (inside : grid < exactLength code) :
    (onGrid grid count).stripped.digitText.length ≤ exactLength code - grid := by
  have split : 10 ^ exactLength code = 10 ^ (exactLength code - grid) * 10 ^ grid := by
    rw [← Nat.pow_add, Nat.sub_add_cancel (Nat.le_of_lt inside)]
  have below : exactDigits code / 10 ^ grid < 10 ^ (exactLength code - grid) := by
    rw [Nat.div_lt_iff_lt_mul (Nat.pow_pos (by decide)), ← split]
    exact lt_pow_length_digitsOfNatural _
  have bounded : count ≤ 10 ^ (exactLength code - grid) := by
    rcases neighbour with rfl | rfl
    · exact Nat.le_of_lt below
    · exact below
  have some : 0 < exactLength code - grid := Nat.sub_pos_of_lt inside
  refine (length_digitsOfNatural_le_iff some).mpr ?_
  rcases Nat.lt_or_eq_of_le bounded with less | equal
  · exact Nat.lt_of_le_of_lt (digits_stripped_le rfl) less
  · have power : (onGrid grid count).value =
        value ⟨1, grid - 1074 + (exactLength code - grid : ℕ)⟩ := by
      rw [value_add_exponent, onGrid, value, value, equal, zpow_natCast]
      push_cast
      ring
    exact Nat.lt_of_le_of_lt (digits_stripped_le power)
      (Nat.one_lt_pow (Nat.ne_of_gt some) (by decide))

/-! ## Every decimal that reads back -/

theorem value_onGrid_one (grid : Nat) : (onGrid grid 1).value = 10 ^ ((grid : Int) - 1074) :=
  value_one _

theorem value_onGrid_ten (grid : Nat) :
    (onGrid grid 10).value = 10 ^ ((grid : Int) - 1074 + 1) := by
  rw [onGrid, value, zpow_add_one₀ (by norm_num), mul_comm, Nat.cast_ofNat]

variable {decimal : Decimal}

/-- A decimal that reads back is on the grid of as many digits if it is of the same order
as the exact value, and else a power of ten lies between the two. -/
theorem exists_onGrid_of_code (finite : code < infinityCode) (some : code ≠ 0)
    (reads : decimal.code = code) (shorter : decimal.digitText.length ≤ exactLength code) :
    ∃ grid count, exactLength code ≤ grid + decimal.digitText.length ∧
      grid < exactLength code ∧ (onGrid grid count).code = code := by
  have exact := code_onGrid_zero finite
  have digits {other : Decimal} (same : other.code = code) : other.digits ≠ 0 :=
    fun none => some (same.symm.trans (code_of_digits_eq_zero none))
  have positive := exactLength_pos code
  have places : (onGrid 0 (exactDigits code)).point = exactLength code - 1074 := by
    show (exactLength code : Int) + ((0 : ℕ) - 1074) = exactLength code - 1074
    omega
  have counted : 1 ≤ decimal.digitText.length := Nat.length_toDigits_pos
  have last : ((exactLength code - 1 : ℕ) : Int) = exactLength code - 1 := by omega
  rcases Int.lt_trichotomy decimal.point (exactLength code - 1074) with less | equal | greater
  · refine ⟨exactLength code - 1, 1, by omega, by omega, code_eq_of_between reads exact ?_ ?_⟩
    · rw [value_onGrid_one, last]
      exact le_trans (le_of_lt (value_lt_pow_point decimal))
        (zpow_le_zpow_right₀ (by norm_num) (by omega))
    · have least := pow_point_le_value (digits exact)
      rw [places] at least
      rw [value_onGrid_one, last]
      exact le_trans (zpow_le_zpow_right₀ (by norm_num) (by omega)) least
  · have whole :
        onGrid (exactLength code - decimal.digitText.length) decimal.digits = decimal := by
      rw [point] at equal
      rw [onGrid, Nat.cast_sub shorter]
      exact congrArg (Decimal.mk decimal.digits) (by omega)
    exact ⟨_, _, by omega, by omega, whole ▸ reads⟩
  · refine ⟨exactLength code - 1, 10, by omega, by omega, code_eq_of_between exact reads ?_ ?_⟩
    · have most := value_lt_pow_point (onGrid 0 (exactDigits code))
      rw [places] at most
      rw [value_onGrid_ten, last]
      exact le_trans (le_of_lt most) (zpow_le_zpow_right₀ (by norm_num) (by omega))
    · rw [value_onGrid_ten, last]
      exact le_trans (zpow_le_zpow_right₀ (by norm_num) (by omega))
        (pow_point_le_value (digits reads))

/-- No decimal that reads back has fewer digits than the shortest. -/
theorem length_shortestDecimal_le (finite : code < infinityCode) (reads : decimal.code = code) :
    (shortestDecimal code).digitText.length ≤ decimal.digitText.length := by
  have counted : 1 ≤ decimal.digitText.length := Nat.length_toDigits_pos
  by_cases none : code = 0
  · rw [none]
    have zero : (shortestDecimal 0).digitText.length = 1 := by decide +kernel
    rwa [zero]
  have positive := exactLength_pos code
  have met : ∃ grid, exactLength code ≤ grid + decimal.digitText.length ∧
      grid < exactLength code ∧ (neighbourOnGrid? code grid ≠ Option.none ∨ grid = 0) := by
    rcases Nat.le_total decimal.digitText.length (exactLength code) with shorter | longer
    · rcases exists_onGrid_of_code finite none reads shorter with
        ⟨grid, count, enough, inside, back⟩
      rcases exists_isNeighbour finite back with ⟨neighbour, isNeighbour, nearBack⟩
      exact ⟨grid, enough, inside, .inl (neighbourOnGrid?_ne_none isNeighbour nearBack)⟩
    · exact ⟨0, by omega, positive, .inr rfl⟩
  rcases met with ⟨grid, enough, inside, found⟩
  rcases exists_coarsestFrom (Nat.le_sub_one_of_lt inside) found with
    ⟨coarser, count, above, below, neighbour, equal⟩
  have shortest : shortestDecimal code = (onGrid coarser count).stripped :=
    congrArg stripped equal
  have left := length_stripped_onGrid_le neighbour (by omega)
  rw [shortest]
  omega

end DeskCalculator.Number
