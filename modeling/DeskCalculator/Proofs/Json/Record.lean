import DeskCalculator.Json.Record
import Mathlib.Data.List.Forall2

/-! A reader sets the fields that a text names, one after the other. A map of records that takes
setting a field to setting a field therefore takes what is read to what is read. -/

namespace DeskCalculator.Json

variable {Record Image : Type} {view : Record → Image}

/-- Setting the field of the image is the same as setting the field before the view. -/
structure Field.Seen (view : Record → Image) (field : Field Record) (image : Field Image) :
    Prop where
  name : image.name = field.name
  set : ∀ token,
    (image.set token).map (fun change record => change (view record)) =
      (field.set token).map fun change record => view (change record)

def Draft.seen (view : Record → Image) (draft : Draft Record) : Draft Image :=
  ⟨view draft.record, draft.named⟩

/-- A result with the record in it seen through the view. -/
def seenRest (view : Record → Image) (result : Record × List Token) : Image × List Token :=
  (view result.1, result.2)

section

variable {field : Field Record} {image : Field Image} {fields : List (Field Record)}
  {images : List (Field Image)}

theorem Field.Seen.set_eq_ok (seen : field.Seen view image) {token : Token}
    {change : Record → Record} (set : field.set token = .ok change) :
    ∃ changeImage, image.set token = .ok changeImage ∧
      ∀ record, changeImage (view record) = view (change record) := by
  have both := seen.set token
  rw [set] at both
  cases there : image.set token with
  | error fault =>
      rw [there] at both
      cases both
  | ok changeImage =>
      rw [there] at both
      exact ⟨changeImage, rfl, congrFun (Except.ok.inj both)⟩

theorem Field.Seen.set_eq_error (seen : field.Seen view image) {token : Token} {fault : Fault}
    (refused : field.set token = .error fault) : image.set token = .error fault := by
  have both := seen.set token
  rw [refused] at both
  cases there : image.set token with
  | error other =>
      rw [there] at both
      exact congrArg _ (Except.error.inj both)
  | ok changeImage =>
      rw [there] at both
      cases both

/-- A name finds a field and its image, or nothing on either side. -/
theorem find?_of_seen (all : List.Forall₂ (Field.Seen view) fields images) (name : List Char) :
    (fields.find? (·.name == name) = none ∧ images.find? (·.name == name) = none) ∨
      ∃ field image, fields.find? (·.name == name) = some field ∧
        images.find? (·.name == name) = some image ∧ field.Seen view image := by
  induction all with
  | nil => exact .inl ⟨rfl, rfl⟩
  | @cons field image fields images first others induction =>
      rw [List.find?_cons, List.find?_cons, first.name]
      cases field.name == name with
      | true => exact .inr ⟨field, image, rfl, rfl, first⟩
      | false => exact induction

/-! ## Objects -/

theorem Draft.setMember_seen (seen : field.Seen view image) (draft : Draft Record)
    (tokens : List Token) :
    (draft.seen view).setMember image tokens =
      (draft.setMember field tokens).map fun result => (result.1.seen view, result.2) := by
  unfold setMember
  split
  · rfl
  · rfl
  · rename_i token rest
    cases set : field.set token with
    | ok change =>
        rcases seen.set_eq_ok set with ⟨changeImage, there, same⟩
        rw [there, seen.name]
        simp only [Except.map, Draft.seen, same]
    | error fault =>
        rw [seen.set_eq_error set]
        rfl
  · rfl

theorem Draft.readMember_seen (all : List.Forall₂ (Field.Seen view) fields images)
    (draft : Draft Record) (tokens : List Token) :
    (draft.seen view).readMember images tokens =
      (draft.readMember fields tokens).map fun result => (result.1.seen view, result.2) := by
  unfold readMember
  split
  · rfl
  · rename_i name rest
    rcases find?_of_seen all name with ⟨noField, noImage⟩ | ⟨field, image, found, there, seen⟩
    · rw [noField, noImage]
      dsimp only
      cases skipMember rest <;> rfl
    · rw [found, there]
      have same : (draft.seen view).named = draft.named := rfl
      dsimp only
      rw [same]
      split
      · rfl
      · exact setMember_seen seen draft rest
  · rfl
  · rfl

/-- Reading goes on with what the member has made of the record, behind the member. -/
theorem Draft.readMembers_comma (fields : List (Field Record)) (draft : Draft Record)
    (tokens : List Token) :
    draft.readMembers fields (.comma :: tokens) =
      (draft.readMember fields tokens >>= fun result => result.1.readMembers fields result.2) := by
  rw [readMembers]
  split
  · rename_i read
    rw [read]
    rfl
  · rename_i read
    rw [read]
    rfl

theorem Draft.readMembers_seen (all : List.Forall₂ (Field.Seen view) fields images)
    (draft : Draft Record) (tokens : List Token) :
    (draft.seen view).readMembers images tokens =
      (draft.readMembers fields tokens).map (seenRest view) := by
  cases tokens with
  | nil => rw [readMembers, readMembers, Except.map]
  | cons token rest =>
      cases token with
      | closeBrace => rw [readMembers, readMembers]; rfl
      | comma =>
          rw [readMembers_comma, readMembers_comma, readMember_seen all]
          cases read : draft.readMember fields rest with
          | ok result => exact readMembers_seen all result.1 result.2
          | error fault => rfl
      | _ => simp [readMembers, Except.map]
termination_by tokens.length
decreasing_by
  have shorter := Draft.length_readMember_lt read
  simp only [List.length_cons]
  omega

theorem readObject_seen (all : List.Forall₂ (Field.Seen view) fields images)
    (default : Record) (tokens : List Token) :
    readObject images (view default) tokens =
      (readObject fields default tokens).map (seenRest view) := by
  unfold readObject
  split
  · rfl
  · rfl
  · have there := Draft.readMember_seen all ⟨default, []⟩ tokens
    have same : Draft.seen view ⟨default, []⟩ = ⟨view default, []⟩ := rfl
    rw [same] at there
    rw [there]
    cases Draft.readMember fields ⟨default, []⟩ tokens with
    | ok result => exact Draft.readMembers_seen all result.1 result.2
    | error fault => rfl

/-! ## Arrays -/

theorem readElements_seen (all : List.Forall₂ (Field.Seen view) fields images)
    (record : Record) (tokens : List Token) :
    readElements (view record) images tokens =
      (readElements record fields tokens).map (seenRest view) := by
  induction all generalizing record tokens with
  | nil =>
      cases tokens with
      | nil => rw [readElements, readElements, Except.map]
      | cons token rest =>
          cases token with
          | closeBracket => rw [readElements, readElements]; rfl
          | _ => simp [readElements, Except.map]
  | @cons field image fields images first others induction =>
      cases tokens with
      | nil => rw [readElements, readElements, Except.map]
      | cons token rest =>
          cases token with
          | closeBracket => rw [readElements, readElements]; rfl
          | comma =>
              cases rest with
              | nil => rfl
              | cons token rest =>
                  rw [readElements, readElements]
                  cases set : field.set token with
                  | ok change =>
                      rcases first.set_eq_ok set with ⟨changeImage, there, same⟩
                      rw [there]
                      dsimp only
                      rw [same]
                      exact induction (change record) rest
                  | error fault =>
                      rw [first.set_eq_error set]
                      rfl
          | _ => simp [readElements, Except.map]

theorem readArray_seen (all : List.Forall₂ (Field.Seen view) fields images)
    (default : Record) (tokens : List Token) :
    readArray images (view default) tokens =
      (readArray fields default tokens).map (seenRest view) := by
  unfold readArray
  split
  · rfl
  · rfl
  · exact readElements_seen all default _

/-! ## Texts -/

theorem withoutRest_seen (outcome : Except Fault (Record × List Token)) :
    withoutRest (outcome.map (seenRest view)) = (withoutRest outcome).map view := by
  rcases outcome with _ | ⟨_, _ | _⟩ <;> rfl

theorem readRecord_seen (all : List.Forall₂ (Field.Seen view) fields images)
    (default : Record) (text : List Char) :
    readRecord images (view default) text = (readRecord fields default text).map view := by
  unfold readRecord
  split
  · rfl
  · rw [readObject_seen all, withoutRest_seen]
  · rw [readArray_seen all, withoutRest_seen]
  · rfl

end

/-! ## Kinds of fields -/

theorem naturalField_seen (name : String) {set : Nat → Record → Record}
    {setImage : Nat → Image → Image}
    (same : ∀ value record, setImage value (view record) = view (set value record)) :
    (naturalField name set).Seen view (naturalField name setImage) where
  name := rfl
  set token := by
    unfold naturalField
    dsimp only
    split
    · split
      · exact congrArg Except.ok (funext (same _))
      · rfl
    · rfl

theorem booleanField_seen (name : String) {set : Bool → Record → Record}
    {setImage : Bool → Image → Image}
    (same : ∀ value record, setImage value (view record) = view (set value record)) :
    (booleanField name set).Seen view (booleanField name setImage) where
  name := rfl
  set token := by
    unfold booleanField
    dsimp only
    split
    · exact congrArg Except.ok (funext (same _))
    · rfl

theorem optionalTextField_seen (name : String) {set : Option (List Char) → Record → Record}
    {setImage : Option (List Char) → Image → Image}
    (same : ∀ value record, setImage value (view record) = view (set value record)) :
    (optionalTextField name set).Seen view (optionalTextField name setImage) where
  name := rfl
  set token := by
    unfold optionalTextField
    dsimp only
    split
    · exact congrArg Except.ok (funext (same _))
    · exact congrArg Except.ok (funext (same _))
    · rfl

end DeskCalculator.Json
