import DeskCalculator.Json.StringText
import Mathlib.Data.List.Forall2
import Mathlib.Tactic.SplitIfs

/-! Between its quotation marks a text can be written in many ways. Reading any of them gives the
text back, and what is written for a text is one of them. -/

namespace DeskCalculator.Json

/-! ## Writing -/

/-- The letters that stand for characters behind a backslash. -/
def escapes : List (Char × Char) :=
  [('"', '"'), ('\\', '\\'), ('/', '/'), ('b', '\x08'), ('f', '\x0c'), ('n', '\n'), ('r', '\r'),
    ('t', '\t')]

/-- A digit to the base sixteen, a letter in either case. -/
def IsHexDigit (value : Nat) (digit : Char) : Prop :=
  value < 16 ∧ (digit = Nat.digitChar value ∨ digit = (Nat.digitChar value).toUpper)

/-- The value of digits to the base sixteen. -/
def hexValue (values : List Nat) : Nat :=
  values.foldl (fun value digit => 16 * value + digit) 0

/-- What may be written for pieces between quotation marks. -/
inductive WritesPieces : List Char → List Piece → Prop
  | nil : WritesPieces [] []
  | plain {character : Char} {written : List Char} {pieces : List Piece}
      (printable : 0x20 ≤ character.toNat) (noQuote : character ≠ '"')
      (noBackslash : character ≠ '\\') (rest : WritesPieces written pieces) :
      WritesPieces (character :: written) (.plain character :: pieces)
  | escape {letter character : Char} {written : List Char} {pieces : List Piece}
      (member : (letter, character) ∈ escapes) (rest : WritesPieces written pieces) :
      WritesPieces ('\\' :: letter :: written) (.plain character :: pieces)
  | unit {values : List Nat} {digits written : List Char} {pieces : List Piece}
      (four : digits.length = 4) (hex : List.Forall₂ IsHexDigit values digits)
      (rest : WritesPieces written pieces) :
      WritesPieces ('\\' :: 'u' :: (digits ++ written)) (.unit (hexValue values) :: pieces)

/-- The text that pieces stand for: a character may be a single unit in the basic plane, and
is a pair of surrogates beyond. -/
inductive Encodes : List Piece → List Char → Prop
  | nil : Encodes [] []
  | plain (character : Char) {pieces : List Piece} {text : List Char}
      (rest : Encodes pieces text) : Encodes (.plain character :: pieces) (character :: text)
  | unit {character : Char} {pieces : List Piece} {text : List Char}
      (basic : character.toNat < 0x10000) (rest : Encodes pieces text) :
      Encodes (.unit character.toNat :: pieces) (character :: text)
  | pair {character : Char} {high low : Nat} {pieces : List Piece} {text : List Char}
      (highBounds : 0xD800 ≤ high ∧ high ≤ 0xDBFF) (lowBounds : 0xDC00 ≤ low ∧ low ≤ 0xDFFF)
      (value : character.toNat = 0x10000 + (high - 0xD800) * 0x400 + (low - 0xDC00))
      (rest : Encodes pieces text) : Encodes (.unit high :: .unit low :: pieces) (character :: text)

/-- What may be written for a text between quotation marks. -/
def WritesText (written text : List Char) : Prop :=
  ∃ pieces, WritesPieces written pieces ∧ Encodes pieces text

/-! ## Reading -/

theorem unescape?_eq_some {letter character : Char} (member : (letter, character) ∈ escapes) :
    letter ≠ 'u' ∧ unescape? letter = some character := by
  simp only [escapes, List.mem_cons, Prod.mk.injEq, List.not_mem_nil, or_false] at member
  rcases member with ⟨rfl, rfl⟩ | ⟨rfl, rfl⟩ | ⟨rfl, rfl⟩ | ⟨rfl, rfl⟩ | ⟨rfl, rfl⟩ |
    ⟨rfl, rfl⟩ | ⟨rfl, rfl⟩ | ⟨rfl, rfl⟩ <;> exact ⟨by decide, rfl⟩

theorem IsHexDigit.read {value : Nat} {digit : Char} (hex : IsHexDigit value digit) :
    isHexDigit digit = true ∧ hexDigitValue digit = value := by
  rcases hex with ⟨bounded, written⟩
  have lower : ∀ value < 16, isHexDigit (Nat.digitChar value) = true ∧
      hexDigitValue (Nat.digitChar value) = value := by decide
  have upper : ∀ value < 16, isHexDigit (Nat.digitChar value).toUpper = true ∧
      hexDigitValue (Nat.digitChar value).toUpper = value := by decide
  rcases written with rfl | rfl
  · exact lower value bounded
  · exact upper value bounded

theorem scanString_of_writesPieces {written : List Char} {pieces : List Piece}
    (writes : WritesPieces written pieces) (rest : List Char) :
    scanString (written ++ '"' :: rest) = (pieces, .ok rest) := by
  induction writes with
  | nil => rw [List.nil_append, scanString]
  | @plain character written pieces printable noQuote noBackslash _ induction =>
      rw [List.cons_append, scanString]
      · rw [if_neg (Nat.not_lt_of_le printable), induction]
      all_goals grind
  | @escape letter character written pieces member _ induction =>
      rcases unescape?_eq_some member with ⟨noUnit, meaning⟩
      rw [List.cons_append, List.cons_append, scanString]
      · rw [meaning, induction]
      all_goals grind
  | @unit values digits written pieces four hex _ induction =>
      rcases hex with _ | ⟨first, _ | ⟨second, _ | ⟨third, _ | ⟨fourth, _ | _⟩⟩⟩⟩ <;>
        cases four
      have all := And.intro first.read (And.intro second.read (And.intro third.read fourth.read))
      simp only [List.cons_append, List.nil_append, scanString, List.all_cons, List.all_nil,
        List.foldl_cons, List.foldl_nil, all, induction, hexValue, Bool.and_self, if_true]

theorem not_surrogate {character : Char} :
    isHighSurrogate character.toNat = false ∧ isLowSurrogate character.toNat = false := by
  have valid := character.valid
  simp only [isHighSurrogate, isLowSurrogate, UInt32.isValidChar, Nat.isValidChar] at valid ⊢
  have same : character.val.toNat = character.toNat := rfl
  rw [same] at valid
  constructor <;> simp <;> omega

/-- No text begins with the second half of a pair. -/
theorem Encodes.not_lowSurrogate {unit : Nat} {pieces : List Piece} {text : List Char}
    (encodes : Encodes (.unit unit :: pieces) text) : isLowSurrogate unit = false := by
  cases encodes with
  | unit => exact not_surrogate.2
  | pair highBounds =>
      simp only [isLowSurrogate, Bool.and_eq_false_iff, decide_eq_false_iff_not]
      omega

theorem joinSurrogates_eq {character : Char} {high low : Nat}
    (value : character.toNat = 0x10000 + (high - 0xD800) * 0x400 + (low - 0xDC00)) :
    joinSurrogates high low = character := by
  rw [joinSurrogates, ← value]
  exact Char.ofNat_toNat character

theorem textOfPieces_of_encodes {pieces : List Piece} {text : List Char}
    (encodes : Encodes pieces text) : textOfPieces pieces = some text := by
  induction encodes with
  | nil => rfl
  | plain character _ induction => rw [textOfPieces, induction, Option.map_some]
  | @unit character pieces text basic rest induction =>
      have single := @not_surrogate character
      have same := Char.ofNat_toNat character
      rcases pieces with _ | ⟨plain | low, pieces⟩
      · simp only [textOfPieces, single, Bool.or_self, Bool.false_eq_true, if_false, same] at *
        rw [induction]
        rfl
      · rw [textOfPieces]
        · simp only [single, Bool.or_self, Bool.false_eq_true, if_false, same, induction,
            Option.map_some]
        · grind
      · have noLow := rest.not_lowSurrogate
        rw [textOfPieces, induction]
        simp only [single, noLow, Bool.and_self, Bool.or_self, Bool.false_eq_true, if_false, same,
          Option.map_some]
  | @pair character high low pieces text highBounds lowBounds value _ induction =>
      have isHigh : isHighSurrogate high = true := by
        simp only [isHighSurrogate, Bool.and_eq_true, decide_eq_true_eq]
        exact highBounds
      have isLow : isLowSurrogate low = true := by
        simp only [isLowSurrogate, Bool.and_eq_true, decide_eq_true_eq]
        exact lowBounds
      rw [textOfPieces, isHigh, isLow, Bool.and_self, if_pos rfl, induction, Option.map_some,
        joinSurrogates_eq value]

theorem cutString_of_writesPieces {written : List Char} {pieces : List Piece}
    (writes : WritesPieces written pieces) (rest : List Char) :
    cutString (written ++ '"' :: rest) = (.string (textOfPieces pieces), some rest) := by
  rw [cutString, scanString_of_writesPieces writes]

theorem cutString_of_writesText {written text : List Char} (writes : WritesText written text)
    (rest : List Char) :
    cutString (written ++ '"' :: rest) = (.string (some text), some rest) := by
  rcases writes with ⟨pieces, written, encodes⟩
  rw [cutString_of_writesPieces written, textOfPieces_of_encodes encodes]

/-! ## What is written can be read -/

theorem WritesText.nil : WritesText [] [] :=
  ⟨[], .nil, .nil⟩

theorem WritesText.plain {character : Char} {written text : List Char}
    (printable : 0x20 ≤ character.toNat) (noQuote : character ≠ '"')
    (noBackslash : character ≠ '\\') (rest : WritesText written text) :
    WritesText (character :: written) (character :: text) := by
  rcases rest with ⟨pieces, writes, encodes⟩
  exact ⟨_, .plain printable noQuote noBackslash writes, .plain character encodes⟩

theorem WritesText.escape {letter character : Char} {written text : List Char}
    (member : (letter, character) ∈ escapes) (rest : WritesText written text) :
    WritesText ('\\' :: letter :: written) (character :: text) := by
  rcases rest with ⟨pieces, writes, encodes⟩
  exact ⟨_, .escape member writes, .plain character encodes⟩

theorem WritesText.control {character : Char} {written text : List Char}
    (small : character.toNat < 0x100) (rest : WritesText written text) :
    WritesText ('\\' :: 'u' :: '0' :: '0' :: hexDigit (character.toNat / 16) ::
      hexDigit (character.toNat % 16) :: written) (character :: text) := by
  rcases rest with ⟨pieces, writes, encodes⟩
  have hex (value : Nat) (bounded : value < 16) : IsHexDigit value (hexDigit value) :=
    ⟨bounded, .inl rfl⟩
  have digits : List.Forall₂ IsHexDigit [0, 0, character.toNat / 16, character.toNat % 16]
      ['0', '0', hexDigit (character.toNat / 16), hexDigit (character.toNat % 16)] :=
    .cons (hex 0 (by decide)) (.cons (hex 0 (by decide)) (.cons (hex _ (by omega))
      (.cons (hex _ (Nat.mod_lt _ (by decide))) .nil)))
  have value : hexValue [0, 0, character.toNat / 16, character.toNat % 16] = character.toNat := by
    simp only [hexValue, List.foldl_cons, List.foldl_nil]
    omega
  have unit := WritesPieces.unit rfl digits writes
  rw [value] at unit
  exact ⟨_, unit, .unit (by omega) encodes⟩

theorem WritesText.escapedCharacter (character : Char) {written text : List Char}
    (rest : WritesText written text) :
    WritesText (escapedCharacter character ++ written) (character :: text) := by
  simp only [Json.escapedCharacter, beq_iff_eq]
  split_ifs with quote backslash backspace tab newline feed carriage small
  · exact .escape (by rw [quote]; decide) rest
  · exact .escape (by rw [backslash]; decide) rest
  · exact .escape (by rw [backspace]; decide) rest
  · exact .escape (by rw [tab]; decide) rest
  · exact .escape (by rw [newline]; decide) rest
  · exact .escape (by rw [feed]; decide) rest
  · exact .escape (by rw [carriage]; decide) rest
  · exact .control (Nat.lt_trans small (by decide)) rest
  · exact .plain (Nat.le_of_not_lt small) quote backslash rest

theorem writesText_escaped (text : List Char) :
    WritesText (text.flatMap escapedCharacter) text := by
  induction text with
  | nil => exact .nil
  | cons character text induction =>
      rw [List.flatMap_cons]
      exact .escapedCharacter character induction

end DeskCalculator.Json
