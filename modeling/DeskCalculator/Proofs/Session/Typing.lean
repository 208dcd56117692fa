import DeskCalculator.Session.Response
import DeskCalculator.Proofs.Expression.Keys
import DeskCalculator.Proofs.Text.Blank

/-! A line of keys, equals signs and blanks is taken for no command word but the empty one and
the equals sign, and executing it comes to typing it. So a line that is an expression with
an equals sign behind it is answered with the value of the expression. -/

namespace DeskCalculator

open Text Expression

/-- The characters of typed lines: keys, equals signs, and blanks between them. -/
def typable (character : Char) : Bool :=
  keyOrBlank character || character == '='

/-! ## Classification

Typed lines have no letters, so they are in lower case as they stand, and they differ from
every command word that has a letter or a question mark. -/

theorem lowerCase_of_typable {character : Char} (typed : typable character = true) :
    lowerCase character = [character] := by
  have kelvin : typable '\u212a' = false := by decide
  have dotted : typable '\u0130' = false := by decide
  have same : character.toLower = character := by
    simp only [typable, Bool.or_eq_true, beq_iff_eq] at typed
    rcases typed with either | rfl
    · exact toLower_of_keyOrBlank either
    · rfl
  unfold lowerCase
  split
  · rename_i equal
    rw [beq_iff_eq.mp equal, kelvin] at typed
    cases typed
  · split
    · rename_i equal
      rw [beq_iff_eq.mp equal, dotted] at typed
      cases typed
    · rw [same]

theorem word_of_typable {line : List Char} (typed : Throughout typable line) :
    word line = trim line := by
  have each : ∀ character ∈ trim line, lowerCase character = [character] :=
    fun character member => lowerCase_of_typable (throughout_trim typed character member)
  rw [word, List.flatMap_def, List.map_congr_left each, ← List.flatMap_def,
    List.flatMap_singleton']

theorem Function.ofWord?_of_typable {text : List Char} (typed : Throughout typable text) :
    Function.ofWord? text = none := by
  have differs (word : List Char) (odd : ¬Throughout typable word) : text ≠ word := by
    rintro rfl
    exact odd typed
  unfold Function.ofWord?
  simp only [differs "sin".toList (by decide), differs "cos".toList (by decide),
    differs "tan".toList (by decide), differs "log".toList (by decide),
    differs "log10".toList (by decide), differs "sqrt".toList (by decide),
    differs "√".toList (by decide), or_self, if_false]

theorem Command.ofWord?_of_typable {text : List Char} (typed : Throughout typable text)
    (some : text ≠ []) (more : text ≠ ['=']) : Command.ofWord? text = none := by
  have others : ∀ entry ∈ Command.words, entry.1.toList = [] ∨ entry.1.toList = ['='] ∨
      ¬Throughout typable entry.1.toList := by decide
  have nothing : (Command.words.find? fun entry => entry.1.toList == text) = none := by
    rw [List.find?_eq_none]
    intro entry member same
    have equal : entry.1.toList = text := by simpa using same
    rcases others entry member with empty | single | odd
    · exact some (equal ▸ empty)
    · exact more (equal ▸ single)
    · exact odd (equal ▸ typed)
  rw [Command.ofWord?, nothing]
  simp [Function.ofWord?_of_typable typed]

theorem Command.ofLine_of_typable {line : List Char} (typed : Throughout typable line)
    (some : trim line ≠ []) (more : trim line ≠ ['=']) :
    Command.ofLine line = .keys (trim line) := by
  rw [Command.ofLine, word_of_typable typed,
    Command.ofWord?_of_typable (throughout_trim typed) some more]

/-! ## Typing -/

namespace Calculator

/-- The calculator after a character of a line. -/
def typed (character : Char) (calculator : Calculator) : Calculator :=
  if character == '=' then calculator.equals.2 else (calculator.press character).2

/-- The calculator after the characters of a line, one by one. -/
def typedAll (text : List Char) (calculator : Calculator) : Calculator :=
  text.foldl (fun calculator character => calculator.typed character) calculator

theorem typedAll_append (first second : List Char) (calculator : Calculator) :
    calculator.typedAll (first ++ second) = (calculator.typedAll first).typedAll second :=
  List.foldl_append

/-- The log does not matter for what is typed. -/
theorem typeLogged_fst (text : List Char) (calculator : Calculator) :
    (calculator.typeLogged text).1 = calculator.typedAll text := by
  induction text generalizing calculator with
  | nil => rfl
  | cons character text induction =>
      rw [typeLogged, typedAll, List.foldl_cons]
      simp only [induction]
      unfold typed
      split <;> rfl

theorem typed_of_keyOrBlank {character : Char} (either : keyOrBlank character = true)
    (calculator : Calculator) :
    calculator.typed character =
      { calculator with display := calculator.display ++ [character].filter keys.contains } := by
  have noEquals : (character == '=') = false :=
    beq_eq_false_of_property either (by decide)
  rw [typed, noEquals]
  cases key : keys.contains character with
  | true =>
      simp only [press, key, List.filter_cons, List.filter_nil, if_true]
      rfl
  | false =>
      simp only [press, key, List.filter_cons, List.filter_nil, List.append_nil,
        Bool.false_eq_true, if_false]

/-- Keys are put on the display in order, and blanks are left out. -/
theorem typedAll_of_keyOrBlank {text : List Char} (all : Throughout keyOrBlank text)
    (calculator : Calculator) :
    calculator.typedAll text =
      { calculator with display := calculator.display ++ text.filter keys.contains } := by
  induction text generalizing calculator with
  | nil => simp [typedAll]
  | cons character text induction =>
      rw [throughout_cons] at all
      have further : calculator.typedAll (character :: text) =
          (calculator.typed character).typedAll text := rfl
      rw [further, induction all.2, typed_of_keyOrBlank all.1, List.append_assoc,
        ← List.filter_append, List.singleton_append]

/-- Executing a typed line is typing what is left of it without the blanks around it. -/
theorem execute_typable (calculator : Calculator) {line : List Char}
    (typable : Throughout typable line) :
    (calculator.execute (.ofLine line)).calculator = calculator.typedAll (trim line) ∧
      (calculator.execute (.ofLine line)).reply =
        .display (calculator.typedAll (trim line)).display := by
  by_cases empty : trim line = []
  · have command : Command.ofLine line = .showDisplay := by
      rw [Command.ofLine, word_of_typable typable, empty]
      rfl
    rw [command, empty]
    exact ⟨rfl, rfl⟩
  by_cases single : trim line = ['=']
  · have command : Command.ofLine line = .equals := by
      rw [Command.ofLine, word_of_typable typable, single]
      rfl
    rw [command, single]
    exact ⟨rfl, rfl⟩
  · rw [Command.ofLine_of_typable typable empty single, ← typeLogged_fst]
    exact ⟨rfl, rfl⟩

/-! ## Expressions -/

/-- What evaluating a text puts on the display. -/
def displayAfter (limit : Nat) (text : List Char) : List Char :=
  match evaluate limit text with
  | .ok value => Number.displayText value
  | .error _ => errorDisplay

theorem filter_keys_trimStart (text : List Char) :
    (trimStart text).filter keys.contains = text.filter keys.contains := by
  have whole : text.takeWhile isBlank ++ text.dropWhile isBlank = text :=
    List.takeWhile_append_dropWhile
  have front := filter_keys_of_blank (throughout_takeWhile text)
  rw [← whole, List.filter_append, front, whole]
  rfl

/-- An equals sign at the end of a line evaluates what the display and the line have in
keys. -/
theorem execute_ended (calculator : Calculator) {text : List Char}
    (all : Throughout keyOrBlank text) :
    let response := calculator.execute (.ofLine (text ++ ['=']))
    let shown := displayAfter calculator.limit
      (calculator.display ++ text.filter keys.contains)
    response.reply = .display shown ∧ response.calculator.display = shown := by
  have front : Throughout typable text :=
    fun character member => by simp [typable, all character member]
  have last : Throughout typable ['='] := by decide
  have executed := calculator.execute_typable ((throughout_append _ _).mpr ⟨front, last⟩)
  have unblanked : Throughout keyOrBlank (trimStart text) :=
    fun character member => all character ((List.dropWhile_sublist _).mem member)
  rw [trim_concat (by decide), typedAll_append, typedAll_of_keyOrBlank unblanked,
    filter_keys_trimStart] at executed
  exact ⟨executed.2, congrArg display executed.1⟩

theorem exists_of_map_displayText {limit : Nat} {text shown : List Char}
    (succeeded : (evaluate limit text).map Number.displayText = .ok shown) :
    ∃ value, evaluate limit text = .ok value ∧ displayAfter limit text = shown := by
  unfold displayAfter
  cases evaluated : evaluate limit text with
  | ok value =>
      rw [evaluated] at succeeded
      exact ⟨value, rfl, Except.ok.inj succeeded⟩
  | error misreading =>
      rw [evaluated] at succeeded
      cases succeeded

theorem displayAfter_filter_keys {limit : Nat} {text : List Char} {value : Float}
    (evaluated : evaluate limit text = .ok value) :
    displayAfter limit (text.filter keys.contains) = displayAfter limit text := by
  rw [displayAfter, displayAfter, evaluate_filter_keys evaluated, evaluated]

theorem execute_expression_ended (limit : Nat) (scientific : Bool) (text : List Char) :
    let response := execute (.ofLine (text ++ ['='])) ⟨[], scientific, limit⟩
    (∀ shown, (evaluate limit text).map Number.displayText = .ok shown →
        response.reply = .display shown ∧ response.calculator.display = shown) ∧
      (Throughout keys.contains text →
        response.reply = .display (displayAfter limit text)) := by
  intro response
  constructor
  · intro shown succeeded
    rcases exists_of_map_displayText succeeded with ⟨value, evaluated, rfl⟩
    have ended := execute_ended ⟨[], scientific, limit⟩
      (throughout_keyOrBlank_of_evaluate evaluated)
    rwa [List.nil_append, displayAfter_filter_keys evaluated] at ended
  · intro all
    have kept : text.filter keys.contains = text := List.filter_eq_self.mpr all
    have ended := execute_ended ⟨[], scientific, limit⟩ (throughout_keyOrBlank_of_keys all)
    rw [List.nil_append, kept] at ended
    exact ended.1

theorem execute_spaced_product_ended :
    (evaluate 1 " 2 *(1+1)".toList).map Number.displayText = .ok "4.0".toList ∧
      (execute (.ofLine (" 2 *(1+1)".toList ++ ['='])) ⟨[], true, 1⟩).reply =
        .display "4.0".toList ∧
      Throughout keys.contains "2*".toList ∧
      (execute (.ofLine ("2*".toList ++ ['='])) ⟨[], true, 1⟩).reply =
        .display (displayAfter 1 "2*".toList) :=
  have shows : (evaluate 1 " 2 *(1+1)".toList).map Number.displayText = .ok "4.0".toList := by
    decide +kernel
  ⟨shows, ((execute_expression_ended 1 true _).1 _ shows).1, by decide,
    (execute_expression_ended 1 true _).2 (by decide)⟩

end Calculator

end DeskCalculator
