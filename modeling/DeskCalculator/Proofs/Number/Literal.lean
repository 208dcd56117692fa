import DeskCalculator.Number.Literal
import DeskCalculator.Proofs.Text.Run

/-! Where a literal ends, and which texts are literals. A text is cut at the first
character that cannot belong to the literal, so the cut depends on one character
behind it and on nothing after that. -/

namespace DeskCalculator.Number

open Text

/-! A cut leaves digits, or digits around a point. Digits alone end where neither
a digit nor a point follows; behind a point only a digit would go on. -/

/-- The text can be cut off as a literal right in front of `rest`. -/
inductive IsCut : (literal rest : List Char) → Prop
  | whole {digits rest : List Char} (all : Throughout isDigit digits)
      (stops : NotAhead isDigit rest) (noPoint : NotAhead (· == '.') rest) :
      IsCut digits rest
  | pointed {whole fraction rest : List Char} (wholeAll : Throughout isDigit whole)
      (fractionAll : Throughout isDigit fraction) (stops : NotAhead isDigit rest) :
      IsCut (whole ++ '.' :: fraction) rest

theorem notAhead_digit_point (rest : List Char) :
    NotAhead isDigit ('.' :: rest) := by
  rw [notAhead_cons]
  decide

theorem IsCut.stops {literal rest : List Char} (cut : IsCut literal rest) :
    NotAhead isDigit rest := by
  cases cut with
  | whole _ stops _ => exact stops
  | pointed _ _ stops => exact stops

theorem splitLiteral_of_isCut {literal rest : List Char} (cut : IsCut literal rest) :
    splitLiteral (literal ++ rest) = (literal, rest) := by
  cases cut with
  | whole all stops noPoint =>
      simp only [splitLiteral, all.takeWhile_append stops,
        all.dropWhile_append stops]
      split
      · simp at noPoint
      · rfl
  | @pointed whole fraction _ wholeAll fractionAll stops =>
      have point := notAhead_digit_point (fraction ++ rest)
      simp only [splitLiteral, List.append_assoc, List.cons_append,
        wholeAll.takeWhile_append point, wholeAll.dropWhile_append point,
        fractionAll.takeWhile_append stops,
        fractionAll.dropWhile_append stops]

theorem splitLiteral_isCut (text : List Char) :
    IsCut (splitLiteral text).1 (splitLiteral text).2 := by
  have stops : NotAhead isDigit (text.dropWhile isDigit) := notAhead_dropWhile text
  unfold splitLiteral
  split
  · rename_i rest equal
    exact .pointed (throughout_takeWhile text) (throughout_takeWhile rest)
      (notAhead_dropWhile rest)
  · rename_i rest noPoint
    refine .whole (throughout_takeWhile text) stops ?_
    intro character member
    cases equal : text.dropWhile isDigit with
    | nil => simp [equal] at member
    | cons first tail =>
        have same : first = character := by simpa [equal] using member
        subst same
        have different : first ≠ '.' := fun point => noPoint tail (by rw [equal, point])
        simp [different]

theorem splitLiteral_append (text : List Char) :
    (splitLiteral text).1 ++ (splitLiteral text).2 = text := by
  have whole : text.takeWhile isDigit ++ text.dropWhile isDigit = text :=
    List.takeWhile_append_dropWhile
  unfold splitLiteral
  split
  · rename_i rest equal
    simp only [List.append_assoc, List.cons_append, List.takeWhile_append_dropWhile]
    rwa [equal] at whole
  · exact whole

/-- What follows a text may be replaced by a text that starts with the same
character, or with one that no literal holds. -/
def Joins (rest other : List Char) : Prop :=
  other.head? = rest.head? ∨ (NotAhead isDigit other ∧ NotAhead (· == '.') other)

theorem IsCut.join {literal rest other : List Char} (cut : IsCut literal rest)
    (joins : Joins rest other) : IsCut literal other := by
  cases cut with
  | whole all stops noPoint =>
      rcases joins with same | ⟨otherStops, otherNoPoint⟩
      · exact .whole all (stops.of_head?_eq same) (noPoint.of_head?_eq same)
      · exact .whole all otherStops otherNoPoint
  | pointed wholeAll fractionAll stops =>
      rcases joins with same | ⟨otherStops, _⟩
      · exact .pointed wholeAll fractionAll (stops.of_head?_eq same)
      · exact .pointed wholeAll fractionAll otherStops

theorem joins_append {rest other : List Char} (joins : Joins rest other)
    (text : List Char) : Joins (text ++ rest) (text ++ other) := by
  cases text with
  | nil => exact joins
  | cons character text => exact .inl rfl

/-! The literals of an expression are `digit+ ("." digit*)?` and `"." digit+`. -/

inductive IsNumeral : List Char → Prop
  | whole {digits : List Char} (all : Throughout isDigit digits) (some : digits ≠ []) :
      IsNumeral digits
  | pointed {whole fraction : List Char} (wholeAll : Throughout isDigit whole)
      (wholeSome : whole ≠ []) (fractionAll : Throughout isDigit fraction) :
      IsNumeral (whole ++ '.' :: fraction)
  | fraction {digits : List Char} (all : Throughout isDigit digits) (some : digits ≠ []) :
      IsNumeral ('.' :: digits)

theorem IsNumeral.isCut {text rest : List Char} (numeral : IsNumeral text)
    (stops : NotAhead isDigit rest) (noPoint : NotAhead (· == '.') rest) :
    IsCut text rest := by
  cases numeral with
  | whole all _ => exact .whole all stops noPoint
  | pointed wholeAll _ fractionAll => exact .pointed wholeAll fractionAll stops
  | fraction all _ => exact .pointed throughout_nil all stops

theorem IsNumeral.ne_nil {text : List Char} (numeral : IsNumeral text) : text ≠ [] := by
  cases numeral with
  | whole _ some => exact some
  | pointed => simp
  | fraction => simp

/-- A cut text is a numeral, nothing at all, or a point alone. -/
theorem IsCut.cases {literal rest : List Char} (cut : IsCut literal rest) :
    IsNumeral literal ∨ literal = [] ∨ literal = ['.'] := by
  cases cut with
  | whole all =>
      by_cases empty : literal = []
      · exact .inr (.inl empty)
      · exact .inl (.whole all empty)
  | @pointed whole fraction _ wholeAll fractionAll =>
      by_cases noWhole : whole = []
      · subst noWhole
        by_cases noFraction : fraction = []
        · subst noFraction
          exact .inr (.inr rfl)
        · exact .inl (.fraction fractionAll noFraction)
      · exact .inl (.pointed wholeAll noWhole fractionAll)

theorem any_isDigit {digits : List Char} (all : Throughout isDigit digits)
    (some : digits ≠ []) : digits.any isDigit = true := by
  rcases List.exists_cons_of_ne_nil some with ⟨first, rest, rfl⟩
  simp [all first (by simp)]

theorem isLiteral_iff_isNumeral (text : List Char) :
    isLiteral text = true ↔ IsNumeral text := by
  constructor
  · intro literal
    simp only [isLiteral, Bool.and_eq_true, List.isEmpty_iff] at literal
    have whole := splitLiteral_append text
    rw [literal.1, List.append_nil] at whole
    have cut := splitLiteral_isCut text
    rw [whole] at cut
    rcases cut.cases with numeral | rfl | rfl
    · exact numeral
    · simp at literal
    · exact absurd literal.2 (by decide)
  · intro numeral
    have cut := splitLiteral_of_isCut
      (numeral.isCut notAhead_nil notAhead_nil)
    rw [List.append_nil] at cut
    simp only [isLiteral, cut, List.isEmpty_nil, Bool.true_and]
    cases numeral with
    | whole all some => exact any_isDigit all some
    | pointed wholeAll wholeSome _ =>
        simp [any_isDigit wholeAll wholeSome]
    | fraction all some => simp [any_isDigit all some]

end DeskCalculator.Number
