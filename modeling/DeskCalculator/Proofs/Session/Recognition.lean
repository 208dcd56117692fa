import DeskCalculator.Proofs.Session.Typing
import DeskCalculator.Proofs.Text.LowerCase
import Mathlib.Data.List.Find

/-! A line is looked up among the command words and, if it is none, among the names of functions,
which are trimmed and put in lower case by themselves. Both come to looking up one word: the
line without the blanks around it, in lower case. All that is not found is typed. -/

namespace DeskCalculator

open Text

variable {final : List Char → List Char → Bool} {line text : List Char}

/-- The words that are not typed. -/
def reservedWords : List (List Char) :=
  ["", "show", "=", "c", "clear", "back", "bs", "sci", "help", "?", "quit", "exit", "sin",
    "cos", "tan", "log", "log10", "sqrt", "√"].map String.toList

/-- The function that a text names, by the whole of its lower case. -/
def Function.named? (final : List Char → List Char → Bool) (name : List Char) :
    Option Function :=
  ofWord? (lowered final (trim name))

/-- The command for a line, with its two lookups one after the other. -/
def Command.recognised (final : List Char → List Char → Bool) (line : List Char) : Command :=
  let trimmed := trim line
  match words.find? fun entry => entry.1.toList == lowered final trimmed with
  | some entry => entry.2
  | none =>
      match Function.named? final trimmed with
      | some function => .apply function
      | none => .keys trimmed

/-! ## One word -/

theorem throughout_reservedWords : ∀ word ∈ reservedWords, Throughout isWordCharacter word := by
  decide

theorem lowered_trim_eq_iff {word : List Char} (reserved : word ∈ reservedWords)
    (line : List Char) : lowered final (trim line) = word ↔ Text.word line = word :=
  lowered_eq_iff (throughout_reservedWords word reserved)

theorem Function.named?_eq (name : List Char) : named? final name = ofName? name := by
  have same (word : String) (reserved : word.toList ∈ reservedWords) :
      (lowered final (trim name) = word.toList) = (Text.word name = word.toList) :=
    propext (lowered_trim_eq_iff reserved name)
  unfold named? ofName? ofWord?
  simp only [same "sin" (by decide), same "cos" (by decide), same "tan" (by decide),
    same "log" (by decide), same "log10" (by decide), same "sqrt" (by decide),
    same "√" (by decide)]

theorem Function.ofName?_trim (name : List Char) : ofName? (trim name) = ofName? name := by
  rw [ofName?, Text.word, trim_trim]
  rfl

theorem Command.find?_words_lowered (line : List Char) :
    (words.find? fun entry => entry.1.toList == lowered final (trim line)) =
      words.find? fun entry => entry.1.toList == Text.word line := by
  have reserved : ∀ entry ∈ words, entry.1.toList ∈ reservedWords := by decide
  refine List.find?_congr fun entry member => ?_
  rw [Bool.eq_iff_iff, beq_iff_eq, beq_iff_eq, eq_comm,
    lowered_trim_eq_iff (reserved entry member), eq_comm]

theorem Command.recognised_eq_ofLine (line : List Char) :
    recognised final line = ofLine line := by
  unfold recognised ofLine ofWord?
  dsimp only
  rw [find?_words_lowered, Function.named?_eq, Function.ofName?_trim]
  cases words.find? fun entry => entry.1.toList == Text.word line with
  | some entry => rfl
  | none =>
      dsimp only
      rw [Function.ofName?]
      cases Function.ofWord? (Text.word line) <;> rfl

/-! ## Words that are not typed -/

def functionWords : List (List Char) :=
  ["sin", "cos", "tan", "log", "log10", "sqrt", "√"].map String.toList

theorem Function.mem_functionWords_of_ofWord? {word : List Char} {function : Function}
    (named : ofWord? word = some function) : word ∈ functionWords := by
  unfold ofWord? at named
  split at named
  · rename_i sine
    exact sine ▸ by decide
  split at named
  · rename_i cosine
    exact cosine ▸ by decide
  split at named
  · rename_i tangent
    exact tangent ▸ by decide
  split at named
  · rename_i logarithm
    rcases logarithm with rfl | rfl <;> decide
  split at named
  · rename_i root
    rcases root with rfl | rfl <;> decide
  · cases named

namespace Command

theorem ofWord?_isSome_iff {word : List Char} :
    (ofWord? word).isSome = true ↔ word ∈ reservedWords := by
  constructor
  · intro found
    unfold ofWord? at found
    split at found
    · rename_i entry same
      have reserved : ∀ entry ∈ words, entry.1.toList ∈ reservedWords := by decide
      have equal : entry.1.toList = word := by simpa using List.find?_some same
      exact equal ▸ reserved entry (List.mem_of_find?_eq_some same)
    · have reserved : ∀ word ∈ functionWords, word ∈ reservedWords := by decide
      rw [Option.isSome_map, Option.isSome_iff_exists] at found
      rcases found with ⟨function, named⟩
      exact reserved word (Function.mem_functionWords_of_ofWord? named)
  · have each : ∀ word ∈ reservedWords, (ofWord? word).isSome = true := by decide
    exact each word

theorem ofWord?_eq_some_apply {word : List Char} {function : Function} :
    ofWord? word = some (.apply function) ↔ Function.ofWord? word = some function := by
  have noFunction : ∀ entry ∈ words, ∀ function, entry.2 ≠ .apply function := by
    simp [words]
  have notAmong : ∀ word ∈ functionWords,
      (words.find? fun entry => entry.1.toList == word) = none := by decide
  unfold ofWord?
  constructor
  · intro found
    split at found
    · rename_i entry same
      exact absurd (Option.some.inj found) (noFunction entry (List.mem_of_find?_eq_some same) _)
    · simpa using found
  · intro named
    rw [notAmong word (Function.mem_functionWords_of_ofWord? named)]
    simp [named]

theorem ofWord?_ne_some_keys (word text : List Char) : ofWord? word ≠ some (.keys text) := by
  have noKeys : ∀ entry ∈ words, ∀ text, entry.2 ≠ .keys text := by
    simp [words]
  intro found
  unfold ofWord? at found
  split at found
  · rename_i entry same
    exact noKeys entry (List.mem_of_find?_eq_some same) text (Option.some.inj found)
  · simp at found

/-! ## Lines -/

theorem ofLine_of_reserved (reserved : Text.word line ∈ reservedWords) :
    ofWord? (Text.word line) = some (ofLine line) := by
  rcases Option.isSome_iff_exists.mp (ofWord?_isSome_iff.mpr reserved) with ⟨command, found⟩
  rw [ofLine, found]

theorem ofLine_of_not_reserved (typed : Text.word line ∉ reservedWords) :
    ofLine line = .keys (trim line) := by
  have notFound : ofWord? (Text.word line) = none := by
    rw [← Option.not_isSome_iff_eq_none, ofWord?_isSome_iff]
    exact typed
  rw [ofLine, notFound]

theorem ofLine_trim (line : List Char) : ofLine (trim line) = ofLine line := by
  have same : Text.word (trim line) = Text.word line := by
    rw [Text.word, trim_trim]
    rfl
  rw [ofLine, ofLine, same, trim_trim]

theorem lowered_trim_mem_reservedWords :
    lowered final (trim line) ∈ reservedWords ↔ Text.word line ∈ reservedWords := by
  constructor
  · intro member
    exact (lowered_trim_eq_iff member line).mp rfl ▸ member
  · intro member
    exact (lowered_trim_eq_iff member line).mpr rfl ▸ member

theorem ofLine_ne_keys_of_reserved (reserved : Text.word line ∈ reservedWords)
    (text : List Char) : ofLine line ≠ .keys text := by
  intro typed
  have found := ofLine_of_reserved reserved
  rw [typed] at found
  exact ofWord?_ne_some_keys _ _ found

theorem ofLine_eq_apply_iff {function : Function} :
    ofLine line = .apply function ↔ Function.named? final line = some function := by
  rw [Function.named?_eq, Function.ofName?, ← ofWord?_eq_some_apply]
  by_cases reserved : Text.word line ∈ reservedWords
  · rw [ofLine_of_reserved reserved, Option.some.injEq]
  · have notFound : ofWord? (Text.word line) = none := by
      rw [← Option.not_isSome_iff_eq_none, ofWord?_isSome_iff]
      exact reserved
    rw [ofLine_of_not_reserved reserved, notFound]
    exact iff_of_false nofun nofun

theorem trim_ne_nil_of_not_reserved (typed : Text.word line ∉ reservedWords) :
    trim line ≠ [] := by
  intro empty
  apply typed
  rw [Text.word, empty]
  decide

/-- What is made of a line, whatever the rule for the sigma at the end of a word. -/
structure Recognition (final : List Char → List Char → Bool) (line : List Char) : Prop where
  in_two_lookups : recognised final line = ofLine line
  not_typed_iff : (∀ text, ofLine line ≠ .keys text) ↔ lowered final (trim line) ∈ reservedWords
  by_word_alone : lowered final (trim line) ∈ reservedWords → ∀ other,
    lowered final (trim other) = lowered final (trim line) → ofLine other = ofLine line
  apply_iff : ∀ function,
    ofLine line = .apply function ↔ Function.named? final line = some function
  typed : lowered final (trim line) ∉ reservedWords →
    ofLine line = .keys (trim line) ∧ trim line ≠ [] ∧
      ofLine (trim line) = .keys (trim line)
  keys : (∀ character ∈ trim line, character ∈ DeskCalculator.keys ∨ character = '=') →
    trim line ≠ [] → trim line ≠ ['='] → ofLine line = .keys (trim line)

theorem recognition (final : List Char → List Char → Bool) (line : List Char) :
    Recognition final line where
  in_two_lookups := recognised_eq_ofLine line
  not_typed_iff := by
    rw [lowered_trim_mem_reservedWords]
    constructor
    · intro notTyped
      by_contra typed
      exact notTyped _ (ofLine_of_not_reserved typed)
    · exact ofLine_ne_keys_of_reserved
  by_word_alone := by
    intro reserved other same
    have word : Text.word line = lowered final (trim line) :=
      (lowered_trim_eq_iff reserved line).mp rfl
    have otherWord : Text.word other = lowered final (trim line) :=
      (lowered_trim_eq_iff reserved other).mp same
    have found := ofLine_of_reserved (word ▸ reserved)
    have otherFound := ofLine_of_reserved (otherWord ▸ reserved)
    rw [word] at found
    rw [otherWord, found] at otherFound
    exact (Option.some.inj otherFound).symm
  apply_iff function := ofLine_eq_apply_iff
  typed := by
    rw [lowered_trim_mem_reservedWords]
    intro typed
    have keys := ofLine_of_not_reserved typed
    exact ⟨keys, trim_ne_nil_of_not_reserved typed, (ofLine_trim line).trans keys⟩
  keys := by
    intro each some more
    have all : Throughout typable (trim line) := by
      intro character member
      rcases each character member with key | equals
      · simp [typable, Expression.keyOrBlank, key]
      · simp [typable, equals]
    rw [← trim_trim] at some more
    rw [← ofLine_trim, ofLine_of_typable all some more, trim_trim]

/-- A kelvin sign is a `k` in lower case. A dotted capital `I` is no `i`, and a second equals
sign is typed. -/
theorem recognition_of_kelvin_sign :
    let final := fun _ rest : List Char => rest.isEmpty
    lowered final (trim "\u2003BAC\u212a\r".toList) = "back".toList ∧
      ofLine "\u2003BAC\u212a\r".toList = .backspace ∧
      ofLine " S\u0130N".toList = .keys "S\u0130N".toList ∧
      ofLine "== ".toList = .keys "==".toList := by
  intro final
  have reserved : lowered final (trim "back".toList) ∈ reservedWords := by decide
  have same : lowered final (trim "\u2003BAC\u212a\r".toList) =
      lowered final (trim "back".toList) := by decide
  have dotted : lowered final (trim " S\u0130N".toList) ∉ reservedWords := by decide
  have signs : trim "== ".toList = ['=', '='] := by decide
  refine ⟨same, (recognition final _).by_word_alone reserved _ same,
    ((recognition final _).typed dotted).1, ?_⟩
  refine (recognition final "== ".toList).keys ?_ (by decide) (by decide)
  rw [signs]
  simp

end Command

end DeskCalculator
