import DeskCalculator.Json.NumberRange
import DeskCalculator.Json.Token
import DeskCalculator.Number.Literal
import DeskCalculator.Outcome

/-! A number has no plus sign in front, no zero in front of other digits, and digits on
both sides of its point. -/

namespace DeskCalculator.Json

/-- Digits, at least one. The fault tells the end of the text from any other
character. -/
def cutDigits (text : List Char) : Except Fault (List Char × List Char) :=
  let digits := text.takeWhile Text.isDigit
  let rest := text.dropWhile Text.isDigit
  if digits.isEmpty then .error (if rest.isEmpty then .ended else .malformed)
  else .ok (digits, rest)

theorem length_cutDigits_lt {text digits rest : List Char}
    (cut : cutDigits text = .ok (digits, rest)) : rest.length < text.length := by
  have whole : text.takeWhile Text.isDigit ++ text.dropWhile Text.isDigit = text :=
    List.takeWhile_append_dropWhile
  have lengths := congrArg List.length whole
  grind [cutDigits, List.isEmpty_iff, List.length_pos_iff]

def cutWhole (text : List Char) : Except Fault (List Char × List Char) :=
  match cutDigits text with
  | .ok (digits, rest) =>
      if digits.head? = some '0' ∧ digits.length ≠ 1 then .error .malformed
      else .ok (digits, rest)
  | .error fault => .error fault

theorem length_cutWhole_lt {text digits rest : List Char}
    (cut : cutWhole text = .ok (digits, rest)) : rest.length < text.length := by
  grind [cutWhole, → length_cutDigits_lt]

def cutFraction (text : List Char) : Except Fault (Option (List Char) × List Char) :=
  match text with
  | '.' :: rest =>
      match cutDigits rest with
      | .ok (digits, rest) => .ok (some digits, rest)
      | .error fault => .error fault
  | _ => .ok (none, text)

theorem length_cutFraction_le {text rest : List Char} {fraction : Option (List Char)}
    (cut : cutFraction text = .ok (fraction, rest)) : rest.length ≤ text.length := by
  unfold cutFraction at cut
  split at cut <;> grind [→ length_cutDigits_lt]

def cutExponent (text : List Char) : Except Fault (Option Int × List Char) :=
  match text with
  | [] => .ok (none, [])
  | mark :: rest =>
      if mark == 'e' || mark == 'E' then
        let (negative, rest) := Number.splitSign rest
        match cutDigits rest with
        | .ok (digits, rest) =>
            let power := Text.naturalOfDigits digits
            .ok (some (if negative then -(power : Int) else power), rest)
        | .error fault => .error fault
      else .ok (none, text)

theorem length_splitSign_le (text : List Char) :
    (Number.splitSign text).2.length ≤ text.length := by
  unfold Number.splitSign
  split <;> simp

theorem length_cutExponent_le {text rest : List Char} {exponent : Option Int}
    (cut : cutExponent text = .ok (exponent, rest)) : rest.length ≤ text.length := by
  unfold cutExponent at cut
  split at cut
  · grind
  · next mark behindMark =>
      have signShorter := length_splitSign_le behindMark
      grind [→ length_cutDigits_lt]

def cutParts (text : List Char) :
    Except Fault ((List Char × Option (List Char) × Option Int) × List Char) :=
  match cutWhole text with
  | .error fault => .error fault
  | .ok (whole, rest) =>
      match cutFraction rest with
      | .error fault => .error fault
      | .ok (fraction, rest) =>
          match cutExponent rest with
          | .error fault => .error fault
          | .ok (exponent, rest) => .ok ((whole, fraction, exponent), rest)

theorem length_cutParts_lt {text rest : List Char}
    {parts : List Char × Option (List Char) × Option Int}
    (cut : cutParts text = .ok (parts, rest)) : rest.length < text.length := by
  unfold cutParts at cut
  split at cut
  · cases cut
  · next wholeCut =>
      have wholeShorter := length_cutWhole_lt wholeCut
      split at cut
      · cases cut
      · next fractionCut =>
          have fractionShorter := length_cutFraction_le fractionCut
          split at cut
          · cases cut
          · next exponentCut =>
              have exponentShorter := length_cutExponent_le exponentCut
              cases cut
              omega

/-- A number is natural if it is written with digits only. -/
def numberToken (negative : Bool) (whole : List Char) (fraction : Option (List Char))
    (exponent : Option Int) : Token :=
  let natural :=
    if negative ∨ fraction.isSome ∨ exponent.isSome then none
    else some (Text.naturalOfDigits whole)
  .number natural (isInRange (estimate whole (fraction.getD []) (exponent.getD 0)))

def cutNumber (text : List Char) : Except Fault (Token × List Char) :=
  let negative := text.head? == some '-'
  match cutParts (if negative then text.drop 1 else text) with
  | .ok ((whole, fraction, exponent), rest) =>
      .ok (numberToken negative whole fraction exponent, rest)
  | .error fault => .error fault

theorem length_cutNumber_lt {text rest : List Char} {token : Token}
    (cut : cutNumber text = .ok (token, rest)) : rest.length < text.length := by
  grind [cutNumber, → length_cutParts_lt]

example : cutNumber "30, 4".toList = .ok (.number (some 30) true, ", 4".toList) := by
  decide +kernel

end DeskCalculator.Json
