import DeskCalculator.Json.Skip

/-! Every well-formed value is passed over, however deep it is nested, and what stands behind it
is still there afterwards. -/

namespace DeskCalculator.Json

inductive Phrase where
  | value
  | elements
  | members

/-- The phrases that values are made of, over tokens. Elements and members are at least
one. -/
inductive IsPhrase : Phrase → List Token → Prop
  | null : IsPhrase .value [.null]
  | boolean (value : Bool) : IsPhrase .value [.boolean value]
  | number (natural : Option Nat) (inRange : Bool) : IsPhrase .value [.number natural inRange]
  | string (text : Option (List Char)) : IsPhrase .value [.string text]
  | emptyArray : IsPhrase .value [.openBracket, .closeBracket]
  | array {elements : List Token} (isElements : IsPhrase .elements elements) :
      IsPhrase .value (.openBracket :: (elements ++ [.closeBracket]))
  | emptyObject : IsPhrase .value [.openBrace, .closeBrace]
  | object {members : List Token} (isMembers : IsPhrase .members members) :
      IsPhrase .value (.openBrace :: (members ++ [.closeBrace]))
  | element {value : List Token} (isValue : IsPhrase .value value) : IsPhrase .elements value
  | elements {value elements : List Token} (isValue : IsPhrase .value value)
      (isElements : IsPhrase .elements elements) :
      IsPhrase .elements (value ++ .comma :: elements)
  | member (name : Option (List Char)) {value : List Token} (isValue : IsPhrase .value value) :
      IsPhrase .members (.string name :: .colon :: value)
  | members (name : Option (List Char)) {value members : List Token}
      (isValue : IsPhrase .value value) (isMembers : IsPhrase .members members) :
      IsPhrase .members (.string name :: .colon :: (value ++ .comma :: members))

/-- Where skipping goes on behind a value. -/
def skipBehind (brackets : List Bracket) (tokens : List Token) : Except Fault (List Token) :=
  if brackets.isEmpty then .ok tokens else skipFrom .separator brackets tokens

theorem skipBehind_cons (bracket : Bracket) (around : List Bracket) (tokens : List Token) :
    skipBehind (bracket :: around) tokens = skipFrom .separator (bracket :: around) tokens :=
  rfl

/-- What it means to pass over a phrase, inside of any brackets. -/
def Phrase.Passed (phrase : Phrase) (tokens : List Token) : Prop :=
  match phrase with
  | value => ∀ brackets rest,
      skipFrom .value brackets (tokens ++ rest) = skipBehind brackets rest
  | elements => ∀ around rest,
      skipFrom .value (.square :: around) (tokens ++ rest) =
        skipFrom .separator (.square :: around) rest
  | members => ∀ around rest,
      skipFrom .key (.brace :: around) (tokens ++ rest) =
        skipFrom .separator (.brace :: around) rest

section

variable {token : Token} {place : Place} {brackets around : List Bracket} {rest : List Token}

theorem skipFrom_of_done (passed : pass place brackets token = .ok .done) :
    skipFrom place brackets (token :: rest) = .ok rest := by
  rw [skipFrom, passed]

theorem skipFrom_of_inside {next : Place}
    (passed : pass place brackets token = .ok (.inside next around)) :
    skipFrom place brackets (token :: rest) = skipFrom next around rest := by
  rw [skipFrom, passed]

theorem skipFrom_of_behindValue
    (passed : pass place brackets token = .ok (.behindValue around)) :
    skipFrom place brackets (token :: rest) = skipBehind around rest := by
  unfold Passage.behindValue at passed
  unfold skipBehind
  split at passed
  · rename_i outermost
    rw [skipFrom_of_done passed, if_pos outermost]
  · rename_i inside
    rw [skipFrom_of_inside passed, if_neg inside]

end

theorem IsPhrase.exists_cons {phrase : Phrase} {tokens : List Token}
    (isPhrase : IsPhrase phrase tokens) :
    ∃ first rest, tokens = first :: rest ∧ first ≠ .closeBracket := by
  induction isPhrase with
  | element _ induction => exact induction
  | elements _ _ induction =>
      rcases induction with ⟨first, rest, rfl, other⟩
      exact ⟨first, _, rfl, other⟩
  | _ => exact ⟨_, _, rfl, by simp⟩

/-- In front of its first element an array is not at its end. -/
theorem IsPhrase.skipFrom_firstElement {phrase : Phrase} {tokens : List Token}
    (isPhrase : IsPhrase phrase tokens) (around : List Bracket) (rest : List Token) :
    skipFrom .firstElement (.square :: around) (tokens ++ rest) =
      skipFrom .value (.square :: around) (tokens ++ rest) := by
  rcases isPhrase.exists_cons with ⟨first, others, rfl, other⟩
  have same : pass .firstElement (.square :: around) first =
      pass .value (.square :: around) first := by
    cases first <;> first | rfl | exact absurd rfl other
  rw [List.cons_append, skipFrom, skipFrom, same]

theorem IsPhrase.skipFrom_firstKey {tokens : List Token} (isMembers : IsPhrase .members tokens)
    (around : List Bracket) (rest : List Token) :
    skipFrom .firstKey (.brace :: around) (tokens ++ rest) =
      skipFrom .key (.brace :: around) (tokens ++ rest) := by
  cases isMembers <;> rfl

theorem IsPhrase.passed {phrase : Phrase} {tokens : List Token}
    (isPhrase : IsPhrase phrase tokens) : phrase.Passed tokens := by
  induction isPhrase with
  | null | boolean | number | string =>
      intro brackets rest
      exact skipFrom_of_behindValue rfl
  | emptyArray | emptyObject =>
      intro brackets rest
      exact (skipFrom_of_inside rfl).trans (skipFrom_of_behindValue rfl)
  | array isElements induction =>
      intro brackets rest
      rw [List.cons_append, List.append_assoc, skipFrom_of_inside rfl,
        isElements.skipFrom_firstElement, induction, List.singleton_append,
        skipFrom_of_behindValue rfl]
  | object isMembers induction =>
      intro brackets rest
      rw [List.cons_append, List.append_assoc, skipFrom_of_inside rfl,
        isMembers.skipFrom_firstKey, induction, List.singleton_append,
        skipFrom_of_behindValue rfl]
  | element _ induction =>
      intro around rest
      exact induction (.square :: around) rest
  | elements _ _ value elements =>
      intro around rest
      rw [List.append_assoc, value (.square :: around), skipBehind_cons, List.cons_append,
        skipFrom_of_inside rfl]
      exact elements around rest
  | member name _ induction =>
      intro around rest
      rw [List.cons_append, List.cons_append, skipFrom_of_inside rfl, skipFrom_of_inside rfl]
      exact induction (.brace :: around) rest
  | members name _ _ value members =>
      intro around rest
      rw [List.cons_append, List.cons_append, List.append_assoc, skipFrom_of_inside rfl,
        skipFrom_of_inside rfl, value (.brace :: around), skipBehind_cons, List.cons_append,
        skipFrom_of_inside rfl]
      exact members around rest

theorem skipValue_append {value : List Token} (isValue : IsPhrase .value value)
    (rest : List Token) : skipValue (value ++ rest) = .ok rest :=
  isValue.passed [] rest

end DeskCalculator.Json
