import DeskCalculator.Json.Token
import DeskCalculator.Text.Digit

/-! A string is written with escapes for the quotation mark, the backslash and the
control characters only. It may be read with an escape for any character; one beyond
the basic plane has two, for the halves of its surrogate pair. -/

namespace DeskCalculator.Json

/-! ## Writing -/

def hexDigit (value : Nat) : Char :=
  Nat.digitChar value

def escapedCharacter (character : Char) : List Char :=
  if character == '"' then ['\\', '"']
  else if character == '\\' then ['\\', '\\']
  else if character == '\x08' then ['\\', 'b']
  else if character == '\t' then ['\\', 't']
  else if character == '\n' then ['\\', 'n']
  else if character == '\x0c' then ['\\', 'f']
  else if character == '\r' then ['\\', 'r']
  else if character.toNat < 0x20 then
    ['\\', 'u', '0', '0', hexDigit (character.toNat / 16), hexDigit (character.toNat % 16)]
  else [character]

def stringText (text : List Char) : List Char :=
  '"' :: text.flatMap escapedCharacter ++ ['"']

/-! ## Reading -/

/-- What stands for itself in a string, and the code units that `\u` escapes give. -/
inductive Piece where
  | plain (character : Char)
  | unit (value : Nat)
deriving DecidableEq, Repr

def isHexDigit (character : Char) : Bool :=
  Text.isDigit character || ('a' ≤ character && character ≤ 'f') ||
    ('A' ≤ character && character ≤ 'F')

def hexDigitValue (character : Char) : Nat :=
  if Text.isDigit character then Text.digitValue character
  else character.toLower.toNat - 'a'.toNat + 10

def unescape? : Char → Option Char
  | '"' => some '"'
  | '\\' => some '\\'
  | '/' => some '/'
  | 'b' => some '\x08'
  | 'f' => some '\x0c'
  | 'n' => some '\n'
  | 'r' => some '\r'
  | 't' => some '\t'
  | _ => none

/-- A `\u` escape is taken as a whole: with fewer than four bytes behind it the text
has ended, whatever they are. -/
def hexFault (rest : List Char) : Fault :=
  if (String.ofList rest).utf8ByteSize < 4 then .ended else .malformed

/-- The pieces of a string up to its closing quotation mark, and the text behind
it. -/
def scanString : List Char → List Piece × Except Fault (List Char)
  | [] => ([], .error .ended)
  | '"' :: rest => ([], .ok rest)
  | ['\\'] => ([], .error .ended)
  | '\\' :: 'u' :: first :: second :: third :: fourth :: rest =>
      let digits := [first, second, third, fourth]
      if digits.all isHexDigit then
        let (pieces, after) := scanString rest
        (.unit (digits.foldl (fun value digit => 16 * value + hexDigitValue digit) 0) :: pieces,
          after)
      else ([], .error .malformed)
  | '\\' :: 'u' :: rest => ([], .error (hexFault rest))
  | '\\' :: letter :: rest =>
      match unescape? letter with
      | some character =>
          let (pieces, after) := scanString rest
          (.plain character :: pieces, after)
      | none => ([], .error .malformed)
  | character :: rest =>
      if character.toNat < 0x20 then ([], .error .malformed)
      else
        let (pieces, after) := scanString rest
        (.plain character :: pieces, after)

theorem length_scanString_le {text rest : List Char}
    (scanned : (scanString text).2 = .ok rest) : rest.length ≤ text.length := by
  fun_induction scanString text generalizing rest with
  | case1 => simp at scanned
  | case2 => simp_all
  | case3 => simp at scanned
  | case4 => grind
  | case5 => simp at scanned
  | case6 => simp at scanned
  | case7 => grind
  | case8 => simp at scanned
  | case9 => simp at scanned
  | case10 => grind

def isHighSurrogate (unit : Nat) : Bool :=
  0xD800 ≤ unit && unit ≤ 0xDBFF

def isLowSurrogate (unit : Nat) : Bool :=
  0xDC00 ≤ unit && unit ≤ 0xDFFF

/-- The character beyond the basic plane that two surrogates stand for. -/
def joinSurrogates (high low : Nat) : Char :=
  Char.ofNat (0x10000 + (high - 0xD800) * 0x400 + (low - 0xDC00))

/-- The text of the pieces, if every surrogate has its partner right beside it. -/
def textOfPieces : List Piece → Option (List Char)
  | [] => some []
  | .plain character :: pieces => (textOfPieces pieces).map (character :: ·)
  | .unit high :: .unit low :: pieces =>
      if isHighSurrogate high && isLowSurrogate low then
        (textOfPieces pieces).map (joinSurrogates high low :: ·)
      else if isHighSurrogate high || isLowSurrogate high then none
      else (textOfPieces (.unit low :: pieces)).map (Char.ofNat high :: ·)
  | .unit unit :: pieces =>
      if isHighSurrogate unit || isLowSurrogate unit then none
      else (textOfPieces pieces).map (Char.ofNat unit :: ·)

/-- The pieces without a last one that could still find its partner. -/
def withoutOpenSurrogate (pieces : List Piece) : List Piece :=
  match pieces.getLast? with
  | some (.unit unit) => if isHighSurrogate unit then pieces.dropLast else pieces
  | _ => pieces

/-- The string behind an opening quotation mark, and the text behind it if the
string is closed. A lone surrogate comes before what breaks the string off. -/
def cutString (text : List Char) : Token × Option (List Char) :=
  match scanString text with
  | (pieces, .ok rest) => (.string (textOfPieces pieces), some rest)
  | (pieces, .error fault) =>
      match textOfPieces (withoutOpenSurrogate pieces) with
      | some _ => (.brokenString fault fault, none)
      | none => (.brokenString .malformed fault, none)

example : (cutString "\\ud800!".toList).1 = .brokenString .malformed .ended := by decide

theorem length_cutString_le {text rest : List Char}
    (cut : (cutString text).2 = some rest) : rest.length ≤ text.length := by
  unfold cutString at cut
  split at cut
  · next pieces after scanned =>
      simp only [Option.some.injEq] at cut
      exact cut ▸ length_scanString_le (congrArg Prod.snd scanned)
  · split at cut <;> simp at cut

end DeskCalculator.Json
