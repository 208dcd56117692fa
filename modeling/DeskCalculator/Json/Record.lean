import DeskCalculator.Json.Skip

/-! A record is written as an object with its fields in any order, or as an array with
its fields in their own order. What is left out keeps its default. Members that are
no fields are skipped, but no field may be given twice. Reading goes from left to
right, and the first fault decides. -/

namespace DeskCalculator.Json

/-- A field is set by a single token, or refuses it. -/
structure Field (Record : Type) where
  name : List Char
  set : Token → Except Fault (Record → Record)

variable {Record : Type}

/-- A record with the names of the members that have set its fields. -/
structure Draft (Record : Type) where
  record : Record
  named : List (List Char)

/-! ## Objects -/

def Draft.setMember (draft : Draft Record) (field : Field Record) :
    List Token → Except Fault (Draft Record × List Token)
  | [] | [.colon] => .error .ended
  | .colon :: token :: rest =>
      match field.set token with
      | .ok change => .ok (⟨change draft.record, field.name :: draft.named⟩, rest)
      | .error fault => .error fault
  | _ => .error .malformed

def skipMember : List Token → Except Fault (List Token)
  | [] => .error .ended
  | .colon :: rest => skipValue rest
  | _ => .error .malformed

def Draft.readMember (fields : List (Field Record)) (draft : Draft Record) :
    List Token → Except Fault (Draft Record × List Token)
  | [] => .error .ended
  | .string (some name) :: rest =>
      match fields.find? (·.name == name) with
      | some field =>
          if draft.named.contains name then .error .mismatched
          else draft.setMember field rest
      | none =>
          match skipMember rest with
          | .ok rest => .ok (draft, rest)
          | .error fault => .error fault
  | .brokenString whenRead _ :: _ => .error whenRead
  | _ => .error .malformed

theorem Draft.length_readMember_lt {fields : List (Field Record)} {draft next : Draft Record}
    {tokens rest : List Token} (member : draft.readMember fields tokens = .ok (next, rest)) :
    rest.length < tokens.length := by
  unfold readMember at member
  split at member
  · cases member
  · next behindName =>
      split at member
      · split at member
        · cases member
        · unfold setMember at member
          split at member
          · cases member
          · cases member
          · split at member
            · cases member
              simp only [List.length_cons]
              omega
            · cases member
          · cases member
      · split at member
        · next skipped =>
            cases member
            unfold skipMember at skipped
            split at skipped
            · cases skipped
            · have shorter := length_skipValue_lt skipped
              simp only [List.length_cons]
              omega
            · cases skipped
        · cases member
  · cases member
  · cases member

/-- Reads what follows a member: the closing brace, or a comma and the next member. -/
def Draft.readMembers (fields : List (Field Record)) (draft : Draft Record) :
    List Token → Except Fault (Record × List Token)
  | [] => .error .ended
  | .closeBrace :: rest => .ok (draft.record, rest)
  | .comma :: rest =>
      match _member : draft.readMember fields rest with
      | .ok (draft, rest) => draft.readMembers fields rest
      | .error fault => .error fault
  | _ => .error .malformed
termination_by tokens => tokens.length
decreasing_by
  have shorter := Draft.length_readMember_lt _member
  simp only [List.length_cons]
  omega

def readObject (fields : List (Field Record)) (default : Record) (tokens : List Token) :
    Except Fault (Record × List Token) :=
  match tokens with
  | [] => .error .ended
  | .closeBrace :: rest => .ok (default, rest)
  | _ =>
      match Draft.readMember fields ⟨default, []⟩ tokens with
      | .ok (draft, rest) => draft.readMembers fields rest
      | .error fault => .error fault

/-! ## Arrays -/

/-- Reads what follows an element: the closing bracket, or a comma and the element
for the next field. -/
def readElements (record : Record) (fields : List (Field Record)) (tokens : List Token) :
    Except Fault (Record × List Token) :=
  match fields, tokens with
  | _, [] => .error .ended
  | _, .closeBracket :: rest => .ok (record, rest)
  | _ :: _, [.comma] => .error .ended
  | field :: fields, .comma :: token :: rest =>
      match field.set token with
      | .ok change => readElements (change record) fields rest
      | .error fault => .error fault
  | _, _ => .error .malformed

def readArray (fields : List (Field Record)) (default : Record) (tokens : List Token) :
    Except Fault (Record × List Token) :=
  match tokens with
  | [] => .error .ended
  | .closeBracket :: rest => .ok (default, rest)
  | _ => readElements default fields (.comma :: tokens)

/-! ## Whole texts -/

def withoutRest {Result : Type} (outcome : Except Fault (Result × List Token)) :
    Except Fault Result :=
  match outcome with
  | .ok (result, []) => .ok result
  | .ok (_, _ :: _) => .error .malformed
  | .error fault => .error fault

def readRecord (fields : List (Field Record)) (default : Record) (text : List Char) :
    Except Fault Record :=
  match tokens text with
  | [] => .error .ended
  | .openBrace :: rest => withoutRest (readObject fields default rest)
  | .openBracket :: rest => withoutRest (readArray fields default rest)
  | token :: _ => .error token.mismatch

/-! ## Kinds of fields -/

def naturalField (name : String) (set : Nat → Record → Record) : Field Record where
  name := name.toList
  set
    | .number (some value) true =>
        if value < Text.wordBound then .ok (set value) else .error .mismatched
    | token => .error token.mismatch

def booleanField (name : String) (set : Bool → Record → Record) : Field Record where
  name := name.toList
  set
    | .boolean value => .ok (set value)
    | token => .error token.mismatch

def optionalTextField (name : String) (set : Option (List Char) → Record → Record) :
    Field Record where
  name := name.toList
  set
    | .null => .ok (set none)
    | .string (some text) => .ok (set (some text))
    | token => .error token.mismatch

end DeskCalculator.Json
