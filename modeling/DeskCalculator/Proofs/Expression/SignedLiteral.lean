import DeskCalculator.Function
import DeskCalculator.Proofs.Expression.Composition
import DeskCalculator.Proofs.Expression.Keys
import DeskCalculator.Proofs.Number.Order
import DeskCalculator.Proofs.Number.Text

/-! A display is evaluated as an expression, and functions read it as a number. Operators and
blanks inside belong to expressions, and words and exponents to numbers. What both readers
take is a literal with at most one sign right in front of it, and to both it is the same
number. -/

namespace DeskCalculator

open Text Number Expression

structure SignedLiteral where
  sign : Option Sign
  literal : List Char
  wellFormed : IsNumeral literal

namespace SignedLiteral

def text (number : SignedLiteral) : List Char :=
  match number.sign with
  | none => number.literal
  | some sign => sign.symbol :: number.literal

def value (number : SignedLiteral) : Float :=
  match number.sign with
  | none => ofLiteral number.literal
  | some sign => sign.opening.apply (ofLiteral number.literal)

end SignedLiteral

/-! ## As an expression -/

namespace Expression

theorem StandsFor.surrounded {limit : Nat} {category : Category} {text front back : List Char}
    {value : Float} (stands : StandsFor limit category text value)
    (frontBlank : Throughout isBlank front) (backBlank : Throughout isBlank back) :
    StandsFor limit category (front ++ (text ++ back)) value := by
  rcases stands with ⟨derivation, spells, fits, same⟩
  have ended : Spells derivation.tokens (text ++ back) := by
    have spelt := spells.append (.blanks backBlank)
    rwa [List.append_nil] at spelt
  exact ⟨derivation, ended.append_blanks frontBlank, fits, same⟩

theorem standsFor_literal {literal : List Char} (wellFormed : IsNumeral literal) :
    StandsFor 0 .factor literal (ofLiteral literal) := by
  have spells : Spells [.literal literal] (literal ++ []) :=
    .token throughout_nil (.blanks throughout_nil)
  rw [List.append_nil] at spells
  exact ⟨.ofPrimary (.numeral literal wellFormed), spells, Nat.le_refl 0, rfl⟩

theorem standsFor_text (number : SignedLiteral) :
    StandsFor 1 .expression number.text number.value := by
  rcases number with ⟨_ | sign, literal, wellFormed⟩
  · exact ((standsFor_literal wellFormed).raise (Nat.zero_le 1)).term.expression
  · exact ((standsFor_literal wellFormed).signed sign).term.expression

theorem evaluate_of_trim_eq {limit : Nat} {text : List Char} {number : SignedLiteral}
    (trimmed : trim text = number.text) (room : 1 ≤ limit) :
    evaluate limit text = .ok number.value := by
  rcases exists_trim text with ⟨front, back, frontBlank, backBlank, equal⟩
  have stands := ((standsFor_text number).raise room).surrounded frontBlank backBlank
  rw [← trimmed, ← equal] at stands
  exact standsFor_iff_evaluate.mp stands

theorem evaluate_raise {limit larger : Nat} {text : List Char} {value : Float}
    (evaluated : evaluate limit text = .ok value) (le : limit ≤ larger) :
    evaluate larger text = .ok value :=
  standsFor_iff_evaluate.mp ((standsFor_iff_evaluate.mpr evaluated).raise le)

end Expression

/-! ## As an operand

Without letters a text is no word, and no exponent stands behind its literal. -/

section

variable {text : List Char}

theorem isWord_of_keyOrBlank (all : Throughout keyOrBlank text) {word : String}
    (odd : ¬Throughout keyOrBlank word.toList) : isWord word text = false := by
  have each : ∀ character ∈ text, character.toLower = character :=
    fun character member => toLower_of_keyOrBlank (all character member)
  have lower : text.map Char.toLower = text :=
    (List.map_congr_left each).trans (List.map_id' text)
  rw [isWord, lower, beq_eq_false_iff_ne]
  rintro rfl
  exact odd all

theorem ofText?_of_keyOrBlank (all : Throughout keyOrBlank text) :
    ofText? text = (decimal? (splitSign text).2).map fun decimal =>
      ofCode (splitSign text).1 decimal.code := by
  rcases exists_splitSign text with ⟨sign, -, equal, -⟩
  have rest : Throughout keyOrBlank (splitSign text).2 := by
    rw [equal, throughout_append] at all
    exact all.2
  have nan : isWord "nan" (splitSign text).2 = false := isWord_of_keyOrBlank rest (by decide)
  have inf : isWord "inf" (splitSign text).2 = false := isWord_of_keyOrBlank rest (by decide)
  have infinity : isWord "infinity" (splitSign text).2 = false :=
    isWord_of_keyOrBlank rest (by decide)
  simp only [ofText?, nan, inf, infinity, Bool.or_self, Bool.false_eq_true, if_false]

theorem isNumeral_of_decimal? (all : Throughout keyOrBlank text) {decimal : Decimal}
    (read : decimal? text = some decimal) : IsNumeral text := by
  rcases exists_of_decimal? read with ⟨literal, rest, power, rfl, numeral, exponent, -⟩
  rcases eq_nil_or_mark_of_exponent? exponent with rfl | ⟨mark, tail, rfl, letter⟩
  · rwa [List.append_nil]
  · have marked : keyOrBlank mark = true := all mark (by simp)
    rcases letter with rfl | rfl
    · exact absurd marked (by decide)
    · exact absurd marked (by decide)

end

namespace SignedLiteral

variable (number : SignedLiteral)

theorem throughout_text : Throughout keyOrBlank number.text := by
  rcases number with ⟨_ | sign, literal, wellFormed⟩
  · exact throughout_keyOrBlank_of_keys (throughout_keys_of_isNumeral wellFormed)
  · have key : keyOrBlank sign.symbol = true := by cases sign <;> decide
    exact (throughout_cons _ _).mpr
      ⟨key, throughout_keyOrBlank_of_keys (throughout_keys_of_isNumeral wellFormed)⟩

theorem splitSign_text :
    splitSign number.text = (number.sign == some .minus, number.literal) := by
  rcases number with ⟨_ | sign, literal, wellFormed⟩
  · rcases List.exists_cons_of_ne_nil wellFormed.ne_nil with ⟨first, rest, rfl⟩
    have starts := startsLiteral_of_isCut (wellFormed.isCut notAhead_nil notAhead_nil)
    have noMinus : first ≠ '-' := by
      rintro rfl
      exact absurd starts (by decide)
    have noPlus : first ≠ '+' := by
      rintro rfl
      exact absurd starts (by decide)
    simp [text, splitSign, noMinus, noPlus]
  · cases sign <;> rfl

theorem ofCode_eq_value :
    ofCode (number.sign == some .minus) (Decimal.ofLiteral number.literal).code =
      number.value := by
  have bounded := Decimal.code_le_infinityCode (.ofLiteral number.literal)
  rcases number with ⟨_ | _ | _, literal, wellFormed⟩
  · rfl
  · rfl
  · exact (neg_ofCode false bounded).symm

theorem ofText?_text : ofText? number.text = some number.value := by
  rw [ofText?_of_keyOrBlank number.throughout_text, splitSign_text,
    decimal?_of_isNumeral number.wellFormed, Option.map_some, ofCode_eq_value]

end SignedLiteral

theorem exists_signedLiteral_of_ofText? {text : List Char} {value : Float}
    (all : Throughout keyOrBlank text) (read : ofText? text = some value) :
    ∃ number : SignedLiteral, text = number.text := by
  rw [ofText?_of_keyOrBlank all] at read
  rcases Option.map_eq_some_iff.mp read with ⟨decimal, magnitude, -⟩
  rcases exists_splitSign text with ⟨sign, known, equal, -⟩
  have numeral : IsNumeral (splitSign text).2 := by
    rw [equal, throughout_append] at all
    exact isNumeral_of_decimal? all.2 magnitude
  simp only [List.mem_cons, List.not_mem_nil, or_false] at known
  rcases known with rfl | rfl | rfl
  · exact ⟨⟨none, _, numeral⟩, equal⟩
  · exact ⟨⟨some .plus, _, numeral⟩, equal⟩
  · exact ⟨⟨some .minus, _, numeral⟩, equal⟩

/-! ## Both readers -/

section

variable {limit : Nat} {text : List Char}

theorem operand_of_trim_eq {number : SignedLiteral} (trimmed : trim text = number.text) :
    Function.operand text = .ok number.value := by
  rw [Function.operand, trimmed, number.ofText?_text]

theorem exists_trim_eq {evaluated read : Float} (evaluates : evaluate limit text = .ok evaluated)
    (reads : Function.operand text = .ok read) :
    ∃ number : SignedLiteral, trim text = number.text := by
  have all := throughout_trim (throughout_keyOrBlank_of_evaluate evaluates)
  rw [Function.operand] at reads
  cases found : ofText? (trim text) with
  | none =>
      rw [found] at reads
      cases reads
  | some value => exact exists_signedLiteral_of_ofText? all found

end

theorem readers_agree (limit : Nat) (text : List Char) :
    (1 ≤ limit →
      ((∃ evaluated, evaluate limit text = .ok evaluated) ∧
          (∃ read, Function.operand text = .ok read) ↔
        ∃ number : SignedLiteral, trim text = number.text)) ∧
    ∀ evaluated read, evaluate limit text = .ok evaluated →
      Function.operand text = .ok read → evaluated.toBits = read.toBits := by
  constructor
  · intro room
    constructor
    · rintro ⟨⟨evaluated, evaluates⟩, read, reads⟩
      exact exists_trim_eq evaluates reads
    · rintro ⟨number, trimmed⟩
      exact ⟨⟨_, evaluate_of_trim_eq trimmed room⟩, _, operand_of_trim_eq trimmed⟩
  · intro evaluated read evaluates reads
    rcases exists_trim_eq evaluates reads with ⟨number, trimmed⟩
    -- Both are the value of the literal, which a larger limit does not change.
    have raised := evaluate_raise evaluates (Nat.le_max_left limit 1)
    rw [evaluate_of_trim_eq trimmed (Nat.le_max_right limit 1)] at raised
    rw [operand_of_trim_eq trimmed] at reads
    cases raised
    cases reads
    rfl

theorem readers_agree_on_minus_zero :
    let spaced := "\u2003-.0\n".toList
    1 ≤ 1 ∧ ((∃ evaluated, evaluate 1 spaced = .ok evaluated) ∧
        ∃ read, Function.operand spaced = .ok read) ∧
      evaluate 1 spaced = .ok (-0.0) ∧ Function.operand spaced = .ok (-0.0) ∧
      (-0.0 : Float).toBits = 0x8000000000000000 := by
  intro spaced
  have wellFormed : IsNumeral ".0".toList := (isLiteral_iff_isNumeral _).mp (by decide)
  have agree := readers_agree 1 spaced
  have both := (agree.1 (Nat.le_refl 1)).mpr ⟨⟨some .minus, ".0".toList, wellFormed⟩, rfl⟩
  have evaluated : evaluate 1 spaced = .ok (-0.0) := by decide +kernel
  rcases both.2 with ⟨read, reads⟩
  have same := Float.toBits_inj.mp (agree.2 (-0.0) read evaluated reads)
  exact ⟨Nat.le_refl 1, both, evaluated, same ▸ reads, by decide +kernel⟩

end DeskCalculator
