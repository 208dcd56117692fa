import DeskCalculator.Proofs.Expression.Budget
import DeskCalculator.Proofs.Expression.SignedLiteral

/-! Operations on a cursor, in any order, keep it in its text and never take it back. What an
operation answers, and where it leaves the cursor, can be told from the text and the position
alone. -/

namespace DeskCalculator

open Text

/-! ## The longest literal

Nothing behind a cut goes on with the literal: behind digits alone stands what is in no literal,
and behind a point it could only be a second point. -/

namespace Number

/-- The text is of the form `digit* ("." digit*)?`. -/
inductive HasLiteralForm : List Char → Prop
  | whole {digits : List Char} (all : Throughout isDigit digits) : HasLiteralForm digits
  | pointed {whole fraction : List Char} (wholeAll : Throughout isDigit whole)
      (fractionAll : Throughout isDigit fraction) : HasLiteralForm (whole ++ '.' :: fraction)

/-- The beginning of the text is of the form, and no longer one is. -/
structure IsLongest (form : List Char → Prop) (beginning text : List Char) : Prop where
  begins : beginning <+: text
  hasForm : form beginning
  longest : ∀ other, other <+: text → form other → other.length ≤ beginning.length

variable {literal rest text : List Char}

theorem IsCut.hasLiteralForm (cut : IsCut literal rest) : HasLiteralForm literal := by
  cases cut with
  | whole all => exact .whole all
  | pointed wholeAll fractionAll => exact .pointed wholeAll fractionAll

namespace HasLiteralForm

theorem throughout_startsLiteral (hasForm : HasLiteralForm text) :
    Throughout Expression.startsLiteral text := by
  have cut : IsCut text [] := by
    cases hasForm with
    | whole all => exact .whole all notAhead_nil notAhead_nil
    | pointed wholeAll fractionAll => exact .pointed wholeAll fractionAll notAhead_nil
  exact Expression.throughout_startsLiteral cut

theorem count_point_of_digits (all : Throughout isDigit text) : text.count '.' = 0 :=
  List.count_eq_zero.mpr fun point => absurd (all '.' point) (by decide)

theorem count_point_le (hasForm : HasLiteralForm text) : text.count '.' ≤ 1 := by
  cases hasForm with
  | whole all =>
      rw [count_point_of_digits all]
      exact Nat.zero_le 1
  | pointed wholeAll fractionAll =>
      rw [List.count_append, List.count_cons_self, count_point_of_digits wholeAll,
        count_point_of_digits fractionAll]

end HasLiteralForm

/-- What starts like the text behind the cut does not go on with the literal. -/
theorem IsCut.not_hasLiteralForm {character : Char} {more : List Char}
    (cut : IsCut literal rest) (ahead : character ∈ rest.head?) :
    ¬HasLiteralForm (literal ++ character :: more) := by
  intro hasForm
  have noDigit : isDigit character = false := cut.stops character ahead
  have belongs : Expression.startsLiteral character = true :=
    hasForm.throughout_startsLiteral character (by simp)
  have point : character = '.' := by simpa [Expression.startsLiteral, noDigit] using belongs
  cases cut with
  | whole _ _ noPoint =>
      have other := noPoint character ahead
      simp [point] at other
  | pointed _ _ _ =>
      -- The literal has a point already, and this would be another one.
      have once := hasForm.count_point_le
      simp only [point, List.count_append, List.count_cons_self] at once
      omega

theorem IsCut.isLongest (cut : IsCut literal rest) :
    IsLongest HasLiteralForm literal (literal ++ rest) where
  begins := List.prefix_append literal rest
  hasForm := cut.hasLiteralForm
  longest other begins hasForm := by
    refine Nat.le_of_not_lt fun longer => ?_
    rcases List.prefix_of_prefix_length_le (List.prefix_append literal rest) begins
      (Nat.le_of_lt longer) with ⟨more, rfl⟩
    rcases begins with ⟨tail, equal⟩
    rw [List.append_assoc, List.append_cancel_left_eq] at equal
    cases more with
    | nil => simp at longer
    | cons character more => exact cut.not_hasLiteralForm (by simp [← equal]) hasForm

theorem splitLiteral_isLongest (text : List Char) :
    IsLongest HasLiteralForm (splitLiteral text).1 text := by
  have longest := (splitLiteral_isCut text).isLongest
  rwa [splitLiteral_append] at longest

/-! Where a literal starts, something is cut off, and it is a numeral or a point alone. -/

theorem splitLiteral_ne_nil (starts : text.head?.any Expression.startsLiteral) :
    (splitLiteral text).1 ≠ [] := by
  cases text with
  | nil => cases starts
  | cons character rest =>
      intro nothing
      have shorter := Expression.length_splitLiteral_lt rest starts
      have whole := splitLiteral_append (character :: rest)
      rw [nothing, List.nil_append] at whole
      rw [whole] at shorter
      exact Nat.lt_irrefl _ shorter

theorem isNumeral_or_eq_point (starts : text.head?.any Expression.startsLiteral) :
    IsNumeral (splitLiteral text).1 ∨ (splitLiteral text).1 = ['.'] := by
  rcases (splitLiteral_isCut text).cases with numeral | nothing | point
  · exact .inl numeral
  · exact absurd nothing (splitLiteral_ne_nil starts)
  · exact .inr point

theorem IsNumeral.ofText?_eq (numeral : IsNumeral literal) :
    ofText? literal = some (ofLiteral literal) :=
  SignedLiteral.ofText?_text ⟨none, literal, numeral⟩

theorem ofText?_point : ofText? ['.'] = none := by
  decide

theorem ofText?_splitLiteral_eq_none_iff (starts : text.head?.any Expression.startsLiteral) :
    ofText? (splitLiteral text).1 = none ↔ (splitLiteral text).1 = ['.'] := by
  rcases isNumeral_or_eq_point starts with numeral | point
  · have some := numeral.ofText?_eq
    refine ⟨fun none => ?_, fun point => ?_⟩
    · cases none.symm.trans some
    · rw [point, ofText?_point] at some
      cases some
  · rw [point]
    exact iff_of_true ofText?_point rfl

end Number

namespace Expression

open Number

/-- Where a literal starts, a parser comes to the number that the literal is read as, and fails
if it is not read as a number. -/
theorem Parser.result_number {parser : Parser}
    (starts : parser.cursor.peek.any startsLiteral) :
    parser.number.result = (ofText? parser.cursor.takeLiteral.1).elim
      (.error ⟨parser.cursor.position, .malformedNumber parser.cursor.takeLiteral.1⟩) .ok := by
  have literal : parser.cursor.takeLiteral.1 = (splitLiteral parser.cursor.rest).1 := rfl
  rw [Parser.number, literal]
  rcases isNumeral_or_eq_point starts with numeral | point
  · rw [if_pos ((isLiteral_iff_isNumeral _).mpr numeral), numeral.ofText?_eq, Option.elim_some]
  · have noLiteral : ¬isLiteral ['.'] = true := by decide
    rw [point, if_neg noLiteral, ofText?_point, Option.elim_none]

namespace Cursor

/-! ## Operations -/

inductive Operation where
  | peek
  | bump
  | skipBlanks
  | eat (expected : Char)
  | takeLiteral
deriving DecidableEq, Repr

/-- What an operation gives back. -/
inductive Answer where
  | character (found : Option Char)
  | nothing
  | eaten (eaten : Bool)
  | literal (text : List Char)
deriving DecidableEq, Repr

def perform : Operation → Cursor → Answer × Cursor
  | .peek, cursor => (.character cursor.peek, cursor)
  | .bump, cursor => (.character cursor.bump.1, cursor.bump.2)
  | .skipBlanks, cursor => (.nothing, cursor.skipBlanks)
  | .eat expected, cursor => (.eaten (cursor.eat expected).1, (cursor.eat expected).2)
  | .takeLiteral, cursor => (.literal cursor.takeLiteral.1, cursor.takeLiteral.2)

/-- The cursor after some operations, the first of them first. -/
def performAll (operations : List Operation) (cursor : Cursor) : Cursor :=
  operations.foldl (fun cursor operation => (cursor.perform operation).2) cursor

example : (start "é +.5.".toList).performAll [.bump, .eat '-', .eat '+', .takeLiteral] =
    ⟨5, ['.']⟩ := by decide

/-! ## Places in a text -/

/-- From one place in the text to another there are only blanks, and no blank follows. -/
structure BlankRun (text : List Char) (place further : Nat) : Prop where
  place_le : place ≤ further
  further_le : further ≤ text.length
  blank : Throughout isBlank (text.extract place further)
  stops : NotAhead isBlank (text.drop further)

/-- What an operation answers at a place in the text, and where it leaves the cursor. -/
inductive Answers (text : List Char) : Operation → Nat → Answer → Nat → Prop
  | peek (place : Nat) : Answers text .peek place (.character text[place]?) place
  | bump {place : Nat} {found : Char} (comes : text[place]? = some found) :
      Answers text .bump place (.character (some found)) (place + 1)
  | bumpAtEnd {place : Nat} (ends : text[place]? = none) :
      Answers text .bump place (.character none) place
  | skipBlanks {place further : Nat} (run : BlankRun text place further) :
      Answers text .skipBlanks place .nothing further
  | eaten {place further : Nat} {expected : Char} (run : BlankRun text place further)
      (comes : text[further]? = some expected) :
      Answers text (.eat expected) place (.eaten true) (further + 1)
  | left {place further : Nat} {expected : Char} (run : BlankRun text place further)
      (other : text[further]? ≠ some expected) :
      Answers text (.eat expected) place (.eaten false) further
  | takeLiteral {place further : Nat} (place_le : place ≤ further)
      (further_le : further ≤ text.length)
      (longest : IsLongest HasLiteralForm (text.extract place further) (text.drop place)) :
      Answers text .takeLiteral place (.literal (text.extract place further)) further

/-- The cursor is at a place in the text, and what it has ahead is the text from there on. -/
structure InText (text : List Char) (cursor : Cursor) : Prop where
  position_le : cursor.position ≤ text.length
  cursor_eq : cursor = .behind text cursor.position

variable {text passed : List Char} {cursor later : Cursor}

theorem Passes.inText (passes : Passes passed cursor later) (inText : InText text cursor) :
    InText text later := by
  rcases passes.behind inText.position_le inText.cursor_eq with ⟨position_le, cursor_eq⟩
  exact ⟨position_le, cursor_eq⟩

theorem Passes.position_le (passes : Passes passed cursor later) :
    cursor.position ≤ later.position := by
  rw [passes.2]
  exact Nat.le_add_right _ _

theorem Passes.bump {character : Char} {rest : List Char}
    (comes : cursor.rest = character :: rest) :
    Passes [character] cursor cursor.bump.2 := by
  simp only [Cursor.bump, comes]
  exact ⟨comes, rfl⟩

theorem exists_passes_perform (operation : Operation) (cursor : Cursor) :
    ∃ passed, Passes passed cursor (cursor.perform operation).2 := by
  cases operation with
  | peek => exact ⟨[], .refl cursor⟩
  | bump =>
      cases comes : cursor.rest with
      | nil => exact ⟨[], by simpa [perform, Cursor.bump, comes] using .refl cursor⟩
      | cons character rest => exact ⟨[character], .bump comes⟩
  | skipBlanks => exact Passes.exists_skipBlanks cursor
  | eat expected =>
      rcases eat_cases expected cursor with ⟨rest, comes, eaten⟩ | ⟨-, left⟩
      · rcases Passes.exists_behind comes with ⟨passed, passes, -⟩
        exact ⟨passed, by rwa [perform, eaten]⟩
      · rw [perform, left]
        exact Passes.exists_skipBlanks cursor
  | takeLiteral => exact ⟨cursor.takeLiteral.1, .takeLiteral cursor⟩

namespace InText

theorem start (text : List Char) : InText text (.start text) :=
  ⟨Nat.zero_le _, rfl⟩

theorem rest_eq (inText : InText text cursor) : cursor.rest = text.drop cursor.position :=
  congrArg Cursor.rest inText.cursor_eq

theorem length_eq (inText : InText text cursor) : cursor.length = text.length := by
  rw [Cursor.length, inText.rest_eq, List.length_drop]
  exact Nat.add_sub_cancel' inText.position_le

theorem peek_eq (inText : InText text cursor) : cursor.peek = text[cursor.position]? := by
  rw [peek, inText.rest_eq, List.head?_drop]

theorem getElem?_of_rest_eq_cons {character : Char} {rest : List Char}
    (inText : InText text cursor) (comes : cursor.rest = character :: rest) :
    text[cursor.position]? = some character := by
  rw [← inText.peek_eq, peek, comes, List.head?_cons]

theorem getElem?_of_rest_eq_nil (inText : InText text cursor) (ends : cursor.rest = []) :
    text[cursor.position]? = none := by
  rw [← inText.peek_eq, peek, ends, List.head?_nil]

theorem extract_eq (inText : InText text cursor) (passes : Passes passed cursor later) :
    text.extract cursor.position later.position = passed := by
  rw [List.extract_eq_take_drop, ← inText.rest_eq, passes.1, passes.2, Nat.add_sub_cancel_left,
    List.take_left]

theorem blankRun (inText : InText text cursor) :
    BlankRun text cursor.position cursor.skipBlanks.position := by
  rcases cursor.exists_skipBlanks with ⟨blanks, blank, rest, position, stops⟩
  have passes : Passes blanks cursor cursor.skipBlanks := ⟨rest, position⟩
  have skipped := passes.inText inText
  refine ⟨passes.position_le, skipped.position_le, ?_, ?_⟩
  · rwa [inText.extract_eq passes]
  · rwa [← skipped.rest_eq]

theorem perform (inText : InText text cursor) (operation : Operation) :
    InText text (cursor.perform operation).2 := by
  rcases exists_passes_perform operation cursor with ⟨passed, passes⟩
  exact passes.inText inText

theorem answers (inText : InText text cursor) (operation : Operation) :
    Answers text operation cursor.position (cursor.perform operation).1
      (cursor.perform operation).2.position := by
  cases operation with
  | peek =>
      rw [Cursor.perform, inText.peek_eq]
      exact .peek cursor.position
  | bump =>
      cases ahead : cursor.rest with
      | nil =>
          simp only [Cursor.perform, Cursor.bump, ahead]
          exact .bumpAtEnd (inText.getElem?_of_rest_eq_nil ahead)
      | cons character rest =>
          simp only [Cursor.perform, Cursor.bump, ahead]
          exact .bump (inText.getElem?_of_rest_eq_cons ahead)
  | skipBlanks => exact .skipBlanks inText.blankRun
  | eat expected =>
      have skipped : InText text cursor.skipBlanks := inText.perform .skipBlanks
      rcases eat_cases expected cursor with ⟨rest, comes, eaten⟩ | ⟨stops, left⟩
      · rw [Cursor.perform, eaten]
        exact .eaten inText.blankRun (skipped.getElem?_of_rest_eq_cons comes)
      · rw [Cursor.perform, left]
        refine .left inText.blankRun fun comes => ?_
        have other := stops expected (skipped.peek_eq.trans comes)
        simp at other
  | takeLiteral =>
      have passes := Passes.takeLiteral cursor
      have literal := inText.extract_eq passes
      have longest := splitLiteral_isLongest cursor.rest
      rw [Cursor.perform, ← literal]
      refine .takeLiteral passes.position_le (passes.inText inText).position_le ?_
      rw [← inText.rest_eq, literal]
      exact longest

end InText

/-! ## Runs -/

theorem position_le_performAll (operations : List Operation) (cursor : Cursor) :
    cursor.position ≤ (cursor.performAll operations).position := by
  induction operations generalizing cursor with
  | nil => exact Nat.le_refl _
  | cons operation operations induction =>
      rcases exists_passes_perform operation cursor with ⟨passed, passes⟩
      exact Nat.le_trans passes.position_le (induction _)

theorem InText.performAll (inText : InText text cursor) (operations : List Operation) :
    InText text (cursor.performAll operations) := by
  induction operations generalizing cursor with
  | nil => exact inText
  | cons operation operations induction => exact induction (inText.perform operation)

theorem eat_skipBlanks (expected : Char) (cursor : Cursor) :
    cursor.skipBlanks.eat expected = cursor.eat expected := by
  simp only [eat, skipBlanks_skipBlanks]

/-- What did not come next does not come next the second time. -/
theorem eat_eat (expected : Char) (left : (cursor.eat expected).1 = false) :
    (cursor.eat expected).2.eat expected = cursor.eat expected := by
  rcases eat_cases expected cursor with ⟨rest, comes, eaten⟩ | ⟨-, equal⟩
  · rw [eaten] at left
    cases left
  · rw [equal, eat_skipBlanks, equal]

/-- The cursor is in the text, and what is done with it next keeps to the text: each operation
answers as the text has it, and no operations take the cursor back. -/
structure KeepsTo (text : List Char) (cursor : Cursor) : Prop where
  position_le : cursor.position ≤ text.length
  length_eq : cursor.length = text.length
  rest_eq : cursor.rest = text.drop cursor.position
  ascends : ∀ operations, cursor.position ≤ (cursor.performAll operations).position
  answers : ∀ operation, Answers text operation cursor.position (cursor.perform operation).1
    (cursor.perform operation).2.position
  repeats : ∀ expected, (cursor.eat expected).1 = false →
    (cursor.eat expected).2.eat expected = cursor.eat expected
  reads : text[cursor.position]?.any startsLiteral →
    (ofText? cursor.takeLiteral.1 = none ↔ cursor.takeLiteral.1 = ['.']) ∧
    ∀ limit depth, (Parser.number ⟨limit, cursor, depth⟩).result =
      (ofText? cursor.takeLiteral.1).elim
        (.error ⟨cursor.position, .malformedNumber cursor.takeLiteral.1⟩) .ok

theorem performAll_keepsTo (text : List Char) (operations : List Operation) :
    KeepsTo text ((start text).performAll operations) := by
  have inText := (InText.start text).performAll operations
  exact
    { position_le := inText.position_le
      length_eq := inText.length_eq
      rest_eq := inText.rest_eq
      ascends := fun operations => position_le_performAll operations _
      answers := inText.answers
      repeats := fun expected left => eat_eat expected left
      reads := fun starts => by
        rw [← inText.peek_eq] at starts
        exact ⟨ofText?_splitLiteral_eq_none_iff starts,
          fun _ _ => Parser.result_number starts⟩ }

end Cursor

end Expression

end DeskCalculator
