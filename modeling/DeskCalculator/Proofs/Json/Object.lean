import DeskCalculator.Proofs.Json.Record
import DeskCalculator.Proofs.Json.Spelling
import DeskCalculator.Proofs.Json.Value
import Mathlib.Data.List.Pairwise

/-! The members that name fields fill the record, and all others leave it as it is. No field is
filled twice, so the order of the members does not matter. -/

namespace DeskCalculator.Json

/-- A name and the tokens of a value. -/
structure Member where
  name : List Char
  value : List Token
deriving DecidableEq, Repr

def Member.tokens (member : Member) : List Token :=
  .string (some member.name) :: .colon :: member.value

/-- Each member with a comma in front, and the end of the object. -/
def furtherTokens : List Member → List Token
  | [] => [.closeBrace]
  | member :: members => .comma :: (member.tokens ++ furtherTokens members)

def objectTokens : List Member → List Token
  | [] => [.openBrace, .closeBrace]
  | member :: members => .openBrace :: (member.tokens ++ furtherTokens members)

variable {Record : Type}

/-- Members turn a record into another one, with some of its fields filled already. -/
inductive Fills (fields : List (Field Record)) :
    List (List Char) → Record → List Member → Record → Prop
  | nil (named : List (List Char)) (record : Record) : Fills fields named record [] record
  | set {named : List (List Char)} {record result : Record} {member : Member}
      {members : List Member} {field : Field Record} {token : Token} {change : Record → Record}
      (found : fields.find? (·.name == member.name) = some field)
      (single : member.value = [token]) (sets : field.set token = .ok change)
      (unnamed : member.name ∉ named)
      (rest : Fills fields (member.name :: named) (change record) members result) :
      Fills fields named record (member :: members) result
  | skip {named : List (List Char)} {record result : Record} {member : Member}
      {members : List Member} (unknown : fields.find? (·.name == member.name) = none)
      (isValue : IsPhrase .value member.value) (rest : Fills fields named record members result) :
      Fills fields named record (member :: members) result

/-! ## Reading -/

section

variable {fields : List (Field Record)} {draft : Draft Record} {member : Member}
  {field : Field Record} {token : Token} {change : Record → Record}

theorem readMember_of_found (found : fields.find? (·.name == member.name) = some field)
    (single : member.value = [token]) (sets : field.set token = .ok change)
    (unnamed : member.name ∉ draft.named) (rest : List Token) :
    draft.readMember fields (member.tokens ++ rest) =
      .ok (⟨change draft.record, member.name :: draft.named⟩, rest) := by
  have name : field.name = member.name := by simpa using List.find?_some found
  rw [Member.tokens, single, List.cons_append, List.cons_append, List.cons_append,
    List.nil_append, Draft.readMember]
  simp only [found, List.contains_eq_mem, unnamed, decide_false, Bool.false_eq_true, if_false,
    Draft.setMember, sets, name]

theorem readMember_of_unknown (unknown : fields.find? (·.name == member.name) = none)
    (isValue : IsPhrase .value member.value) (rest : List Token) :
    draft.readMember fields (member.tokens ++ rest) = .ok (draft, rest) := by
  rw [Member.tokens, List.cons_append, List.cons_append, Draft.readMember]
  simp only [unknown, skipMember, skipValue_append isValue]

theorem Fills.readMembers {named : List (List Char)} {record result : Record}
    {members : List Member} (fills : Fills fields named record members result)
    (rest : List Token) :
    Draft.readMembers fields ⟨record, named⟩ (furtherTokens members ++ rest) =
      .ok (result, rest) := by
  induction fills with
  | nil named record => rw [furtherTokens, List.singleton_append, Draft.readMembers]
  | set found single sets unnamed _ induction =>
      rw [furtherTokens, List.cons_append, List.append_assoc,
        Draft.readMembers_comma, readMember_of_found found single sets unnamed]
      exact induction
  | skip unknown isValue _ induction =>
      rw [furtherTokens, List.cons_append, List.append_assoc,
        Draft.readMembers_comma, readMember_of_unknown unknown isValue]
      exact induction

theorem readObject_of_readMember {default : Record} {next : Draft Record}
    {tokens rest : List Token}
    (read : Draft.readMember fields ⟨default, []⟩ (member.tokens ++ tokens) = .ok (next, rest)) :
    readObject fields default (member.tokens ++ tokens) = next.readMembers fields rest := by
  rw [Member.tokens, List.cons_append] at read ⊢
  unfold Json.readObject
  dsimp only
  rw [read]

theorem Fills.readObject {default result : Record} {members : List Member}
    (fills : Fills fields [] default members result) :
    readObject fields default (objectTokens members).tail = .ok (result, []) := by
  cases fills with
  | nil => rfl
  | set found single sets unnamed rest =>
      have read := rest.readMembers []
      rw [List.append_nil] at read
      rw [objectTokens, List.tail_cons,
        readObject_of_readMember (readMember_of_found found single sets unnamed _), read]
  | skip unknown isValue rest =>
      have read := rest.readMembers []
      rw [List.append_nil] at read
      rw [objectTokens, List.tail_cons,
        readObject_of_readMember (readMember_of_unknown unknown isValue _), read]

theorem readRecord_of_fills {default result : Record} {members : List Member} {text : List Char}
    (fills : Fills fields [] default members result) (spells : Spells (objectTokens members) text) :
    readRecord fields default text = .ok result := by
  have read := fills.readObject
  have braced : objectTokens members = .openBrace :: (objectTokens members).tail := by
    cases members <;> rfl
  rw [readRecord, tokens_of_spells spells, braced]
  dsimp only
  rw [read]
  rfl

end

/-! ## The order of the members -/

/-- Setting the two fields in either order comes to the same. -/
def Field.Commutes (first second : Field Record) : Prop :=
  ∀ token other change otherChange, first.set token = .ok change →
    second.set other = .ok otherChange →
      ∀ record, otherChange (change record) = change (otherChange record)

instance : Std.Symm (@Field.Commutes Record) where
  symm _ _ commutes _ _ _ _ sets otherSets record :=
    (commutes _ _ _ _ otherSets sets record).symm

/-- Any two of the fields may be set in either order. -/
def Independent (fields : List (Field Record)) : Prop :=
  fields.Pairwise Field.Commutes

theorem Independent.commutes {fields : List (Field Record)} {first second : Field Record}
    (independent : Independent fields) (member : first ∈ fields) (other : second ∈ fields)
    (different : first.name ≠ second.name) : first.Commutes second :=
  List.Pairwise.forall independent member other (mt (congrArg Field.name) different)

namespace Fills

variable {fields : List (Field Record)} {named : List (List Char)} {record result : Record}
  {members others : List Member}

/-- It only matters which names have been filled, and not in which order. -/
theorem congr_named {renamed : List (List Char)} (fills : Fills fields named record members result)
    (same : ∀ name, name ∈ named ↔ name ∈ renamed) :
    Fills fields renamed record members result := by
  induction fills generalizing renamed with
  | nil => exact .nil _ _
  | set found single sets unnamed _ induction =>
      refine .set found single sets (mt (same _).mpr unnamed) (induction fun name => ?_)
      rw [List.mem_cons, List.mem_cons, same]
  | skip unknown isValue _ induction => exact .skip unknown isValue (induction same)

theorem swap (independent : Independent fields) {first second : Member}
    (fills : Fills fields named record (first :: second :: members) result) :
    Fills fields named record (second :: first :: members) result := by
  cases fills with
  | @set _ _ _ _ _ field _ _ found single sets unnamed rest =>
      cases rest with
      | @set _ _ _ _ _ other _ _ otherFound otherSingle otherSets otherUnnamed rest =>
          rw [List.mem_cons, not_or] at otherUnnamed
          have name : field.name = first.name := by simpa using List.find?_some found
          have otherName : other.name = second.name := by simpa using List.find?_some otherFound
          have different : other.name ≠ field.name := by
            rw [name, otherName]
            exact otherUnnamed.1
          have either := independent.commutes (List.mem_of_find?_eq_some otherFound)
            (List.mem_of_find?_eq_some found) different _ _ _ _ otherSets sets
          refine .set otherFound otherSingle otherSets otherUnnamed.2 (.set found single sets ?_ ?_)
          · rw [List.mem_cons, not_or]
            exact ⟨fun same => otherUnnamed.1 same.symm, unnamed⟩
          · rw [either]
            refine rest.congr_named fun name => ?_
            simp only [List.mem_cons]
            exact or_left_comm
      | skip unknown isValue rest =>
          exact .skip unknown isValue (.set found single sets unnamed rest)
  | skip unknown isValue rest =>
      cases rest with
      | set found single sets unnamed rest =>
          exact .set found single sets unnamed (.skip unknown isValue rest)
      | skip otherUnknown otherIsValue rest =>
          exact .skip otherUnknown otherIsValue (.skip unknown isValue rest)

theorem perm (independent : Independent fields) (fills : Fills fields named record members result)
    (order : members.Perm others) : Fills fields named record others result := by
  induction order generalizing named record with
  | nil => exact fills
  | cons member _ induction =>
      cases fills with
      | set found single sets unnamed rest =>
          exact .set found single sets unnamed (induction rest)
      | skip unknown isValue rest => exact .skip unknown isValue (induction rest)
  | swap => exact fills.swap independent
  | trans _ _ first second => exact second (first fills)

/-- Members that name no field may be added. -/
theorem append (fills : Fills fields named record members result)
    (unknown : ∀ other ∈ others, fields.find? (·.name == other.name) = none)
    (areValues : ∀ other ∈ others, IsPhrase .value other.value) :
    Fills fields named record (members ++ others) result := by
  induction fills with
  | nil named record =>
      induction others with
      | nil => exact .nil _ _
      | cons other others induction =>
          rw [List.forall_mem_cons] at unknown areValues
          exact .skip unknown.1 areValues.1 (induction unknown.2 areValues.2)
  | set found single sets unnamed _ induction => exact .set found single sets unnamed induction
  | skip none isValue _ induction => exact .skip none isValue induction

end Fills

end DeskCalculator.Json
