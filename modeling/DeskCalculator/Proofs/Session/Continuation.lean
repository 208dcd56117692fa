import DeskCalculator.Proofs.Calculator.Operation
import DeskCalculator.Proofs.Expression.Continuation
import DeskCalculator.Proofs.Session.Typing

/-! A result on the display is the beginning of the next expression. It can be carried on
exactly if it is displayed without a power of ten: there is no letter in expressions. -/

namespace DeskCalculator

open Text Number Expression

namespace Calculator

/-- Typing the keys and an equals sign leads to the text on the display. As a line, it is
also answered with it. -/
structure Answers (calculator : Calculator) (pressed shown : List Char) : Prop where
  typed : (calculator.typedAll (pressed ++ ['='])).display = shown
  executed : (calculator.execute (.ofLine (pressed ++ ['=']))).calculator.display = shown
  reply : (calculator.execute (.ofLine (pressed ++ ['=']))).reply = .display shown

theorem answers_displayAfter (calculator : Calculator) {typed : List Char}
    (all : Throughout keys.contains typed) :
    calculator.Answers typed (displayAfter calculator.limit (calculator.display ++ typed)) := by
  have kept : typed.filter keys.contains = typed := List.filter_eq_self.mpr all
  have ended := calculator.execute_ended (throughout_keyOrBlank_of_keys all)
  rw [kept] at ended
  refine ⟨?_, ended.2, ended.1⟩
  rw [typedAll_append, typedAll_of_keyOrBlank (throughout_keyOrBlank_of_keys all), kept]
  rfl

theorem answers_of_evaluate {calculator : Calculator} {typed : List Char} {value : Float}
    (all : Throughout keys.contains typed)
    (evaluated : evaluate calculator.limit (calculator.display ++ typed) = .ok value) :
    calculator.Answers typed (displayText value) := by
  have answers := calculator.answers_displayAfter all
  rwa [displayAfter, evaluated] at answers

theorem displayAfter_of_letter {limit : Nat} {text : List Char} {letter : Char}
    (member : letter ∈ text) (odd : keyOrBlank letter = false) :
    displayAfter limit text = errorDisplay := by
  unfold displayAfter
  cases evaluated : evaluate limit text with
  | error misreading => rfl
  | ok value =>
      have all := throughout_keyOrBlank_of_evaluate evaluated letter member
      rw [odd] at all
      cases all

theorem result_carried_on (value : Float) (scientific : Bool) (limit : Nat) :
    let result : Calculator := ⟨displayText value, scientific, limit⟩
    (IsPlain value → 2 ≤ limit →
      result.equals = (.ok value, result) ∧
      ∀ literal, IsNumeral literal →
        (∀ operator : SumOperator, result.Answers (operator.symbol :: literal)
          (displayText (operator.apply value (ofLiteral literal)))) ∧
        (∀ operator : ProductOperator, result.Answers (operator.symbol :: literal)
          (displayText (operator.apply value (ofLiteral literal)))) ∧
        result.Answers ('^' :: literal)
          (displayText (if isNegative value then -value.abs.pow (ofLiteral literal)
            else value.pow (ofLiteral literal)))) ∧
    (¬IsPlain value → ∀ typed, Throughout keys.contains typed →
      result.Answers typed errorDisplay) := by
  intro result
  constructor
  · intro plain room
    have single : 1 ≤ limit := Nat.le_of_succ_le room
    refine ⟨equals_of_ok (evaluate_displayText plain single), ?_⟩
    intro literal wellFormed
    have typed (operator : Char) (key : keys.contains operator = true) :
        Throughout keys.contains (operator :: literal) :=
      (throughout_cons _ _).mpr ⟨key, throughout_keys_of_isNumeral wellFormed⟩
    refine ⟨fun operator => ?_, fun operator => ?_, ?_⟩
    · exact answers_of_evaluate (typed _ (by cases operator <;> decide))
        (evaluate_displayText_sum plain wellFormed operator single)
    · exact answers_of_evaluate (typed _ (by cases operator <;> decide))
        (evaluate_displayText_product plain wellFormed operator single)
    · exact answers_of_evaluate (typed _ (by decide))
        (evaluate_displayText_power plain wellFormed room)
  · intro other typed all
    -- The letter stays on the display whatever is typed behind it.
    rcases exists_letter_of_not_isPlain other with ⟨letter, member, isLetter⟩
    have each : Throughout (fun letter => !keyOrBlank letter) "EIN".toList := by decide
    have odd : keyOrBlank letter = false := by simpa using each letter isLetter
    have wrong : displayAfter limit (displayText value ++ typed) = errorDisplay :=
      displayAfter_of_letter (List.mem_append_left typed member) odd
    rw [← wrong]
    exact result.answers_displayAfter all

theorem result_carried_on_from_minus_half :
    let half : Calculator := ⟨"-0.5".toList, false, 2⟩
    let large : Calculator := ⟨"1.0E7".toList, false, 2⟩
    IsPlain (-0.5) ∧ half.equals = (.ok (-0.5), half) ∧ IsNumeral "2.5".toList ∧
      half.Answers "*2.5".toList "-1.25".toList ∧
      half.Answers "^2.5".toList (displayText (-Float.pow 0.5 2.5)) ∧
      ¬IsPlain 1e7 ∧ Throughout keys.contains "+1".toList ∧
      large.Answers "+1".toList errorDisplay := by
  intro half large
  have plain : IsPlain (-0.5) := .inr (by decide +kernel)
  have other : ¬IsPlain 1e7 := by
    rintro (zero | ⟨-, below⟩)
    · exact absurd zero (by decide +kernel)
    · exact absurd below (by decide +kernel)
  have wellFormed : IsNumeral "2.5".toList := (isLiteral_iff_isNumeral _).mp (by decide)
  have all : Throughout keys.contains "+1".toList := by decide
  have shows : displayText (-0.5) = half.display := by decide +kernel
  have showsLarge : displayText 1e7 = large.display := by decide +kernel
  have carried := (result_carried_on (-0.5) false 2).1 plain (Nat.le_refl 2)
  have refused := (result_carried_on 1e7 false 2).2 other _ all
  rw [shows] at carried
  rw [showsLarge] at refused
  have product : displayText (ProductOperator.times.apply (-0.5) (ofLiteral "2.5".toList)) =
      "-1.25".toList := by decide +kernel
  have number : ofLiteral "2.5".toList = 2.5 := by decide +kernel
  have size : Float.abs (-0.5) = 0.5 := by decide +kernel
  have negative : isNegative (-0.5) = true := by decide +kernel
  have answers := carried.2 _ wellFormed
  have times := answers.2.1 .times
  have power := answers.2.2
  rw [product] at times
  rw [negative, if_pos rfl, size, number] at power
  exact ⟨plain, carried.1, wellFormed, times, power, other, all, refused⟩

end Calculator

end DeskCalculator
