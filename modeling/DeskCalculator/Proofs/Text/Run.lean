import DeskCalculator.Text.Blank
import DeskCalculator.Text.Digit

/-! A run is cut off a text where its property first fails. -/

namespace DeskCalculator.Text

/-- Every character of the text has the property. -/
def Throughout (property : Char → Bool) (text : List Char) : Prop :=
  ∀ character ∈ text, property character = true

/-- The text does not start with a character that has the property. -/
def NotAhead (property : Char → Bool) (text : List Char) : Prop :=
  ∀ character ∈ text.head?, property character = false

instance (property : Char → Bool) (text : List Char) : Decidable (Throughout property text) :=
  decidable_of_iff (text.all property = true) List.all_eq_true

instance (property : Char → Bool) (text : List Char) : Decidable (NotAhead property text) :=
  decidable_of_iff (text.head?.any property = false) (by cases text <;> simp [NotAhead])

section

variable {property : Char → Bool} {run rest text : List Char}

theorem beq_eq_false_of_property {character other : Char} (holds : property character = true)
    (fails : property other = false) : (character == other) = false := by
  rw [beq_eq_false_iff_ne]
  rintro rfl
  cases holds.symm.trans fails

@[simp] theorem throughout_nil : Throughout property [] :=
  nofun

@[simp] theorem throughout_cons (character : Char) (rest : List Char) :
    Throughout property (character :: rest) ↔
      property character = true ∧ Throughout property rest := by
  simp [Throughout]

@[simp] theorem throughout_append (left right : List Char) :
    Throughout property (left ++ right) ↔
      Throughout property left ∧ Throughout property right := by
  simp [Throughout, or_imp, forall_and]

@[simp] theorem notAhead_nil : NotAhead property [] :=
  nofun

@[simp] theorem notAhead_cons (character : Char) (rest : List Char) :
    NotAhead property (character :: rest) ↔ property character = false := by
  simp [NotAhead]

theorem throughout_takeWhile (text : List Char) :
    Throughout property (text.takeWhile property) :=
  List.all_eq_true.mp List.all_takeWhile

theorem notAhead_dropWhile (text : List Char) :
    NotAhead property (text.dropWhile property) := by
  induction text with
  | nil => simp
  | cons character rest induction =>
      cases holds : property character with
      | true => rwa [List.dropWhile_cons_of_pos holds]
      | false => simp [holds]

theorem NotAhead.takeWhile_eq_nil (stops : NotAhead property text) :
    text.takeWhile property = [] := by
  cases text with
  | nil => rfl
  | cons character rest =>
      rw [notAhead_cons] at stops
      rw [List.takeWhile_cons_of_neg (by simp [stops])]

theorem NotAhead.dropWhile_eq_self (stops : NotAhead property text) :
    text.dropWhile property = text := by
  cases text with
  | nil => rfl
  | cons character rest =>
      rw [notAhead_cons] at stops
      rw [List.dropWhile_cons_of_neg (by simp [stops])]

theorem NotAhead.of_head?_eq (stops : NotAhead property rest)
    (same : text.head? = rest.head?) : NotAhead property text := by
  intro character member
  rw [same] at member
  exact stops character member

theorem NotAhead.of_append (stops : NotAhead property (text ++ rest)) :
    NotAhead property text := by
  cases text with
  | nil => exact notAhead_nil
  | cons character text => exact stops

theorem Throughout.takeWhile_append (all : Throughout property run)
    (stops : NotAhead property rest) : (run ++ rest).takeWhile property = run := by
  rw [List.takeWhile_append_of_pos all, stops.takeWhile_eq_nil, List.append_nil]

theorem Throughout.dropWhile_append (all : Throughout property run)
    (stops : NotAhead property rest) : (run ++ rest).dropWhile property = rest := by
  rw [List.dropWhile_append_of_pos all, stops.dropWhile_eq_self]

end

/-! There are ten digits, and none of them is blank. -/

def digits : List Char :=
  "0123456789".toList

theorem mem_digits_of_isDigit {character : Char} (digit : isDigit character = true) :
    character ∈ digits := by
  have all : ∀ code < 58, 48 ≤ code → Char.ofNat code ∈ digits := by decide
  simp only [isDigit, Bool.and_eq_true, decide_eq_true_eq, Char.le_def,
    UInt32.le_iff_toNat_le] at digit
  have lower : 48 ≤ character.toNat := digit.1
  have upper : character.toNat ≤ 57 := digit.2
  rw [← Char.ofNat_toNat character]
  exact all character.toNat (Nat.lt_succ_of_le upper) lower

/-- What all ten digits have, a run of digits has throughout. -/
theorem Throughout.of_digits {property : Char → Bool} {text : List Char}
    (all : Throughout isDigit text) (each : Throughout property digits) :
    Throughout property text :=
  fun character member => each character (mem_digits_of_isDigit (all character member))

theorem isBlank_eq_false_of_isDigit {character : Char}
    (digit : isDigit character = true) : isBlank character = false := by
  have each : Throughout (fun digit => !isBlank digit) digits := by decide
  simpa using each character (mem_digits_of_isDigit digit)

theorem isDigit_eq_false_of_isBlank {character : Char}
    (blank : isBlank character = true) : isDigit character = false := by
  cases digit : isDigit character with
  | false => rfl
  | true => simp [isBlank_eq_false_of_isDigit digit] at blank

end DeskCalculator.Text
