import DeskCalculator.Program.Arguments
import DeskCalculator.Proofs.Text.Digit

/-! The command line is understood if and only if it is made of groups, and among the groups for
one thing the last decides. What stands behind a flag that takes a value is its value, so
where a group begins depends on all the groups in front of it. -/

namespace DeskCalculator

open Text

/-- What a group of arguments says. -/
inductive Group where
  | settingsFile (path : String)
  | limit (limit : Nat)
  | expression (text : String)
  | help
deriving DecidableEq, Repr

namespace Group

/-- The ways to write a group. Any text is the value of a flag, also one that is a flag. -/
inductive Written : Group → List String → Prop
  | settingsFile {flag : String} (named : flag ∈ ["-c", "--config"]) (path : String) :
      Written (.settingsFile path) [flag, path]
  | limit {value : String} {number : Nat} (writes : WritesNatural value.toList number)
      (fits : number < wordBound) : Written (.limit number) ["--max-depth", value]
  | expression {flag : String} (named : flag ∈ ["-e", "--eval"]) (text : String) :
      Written (.expression text) [flag, text]
  | help {flag : String} (named : flag ∈ ["-h", "--help"]) : Written .help [flag]

def settingsFile? : Group → Option String
  | settingsFile path => some path
  | _ => none

def limit? : Group → Option Nat
  | .limit number => some number
  | _ => none

def expression? : Group → Option String
  | expression text => some text
  | _ => none

end Group

/-- Groups, written one behind the other. -/
inductive Spelled : List Group → List String → Prop
  | nil : Spelled [] []
  | cons {group : Group} {groups : List Group} {written rest : List String}
      (first : group.Written written) (others : Spelled groups rest) :
      Spelled (group :: groups) (written ++ rest)

namespace Arguments

/-- For each thing the last group counts. -/
def ofGroups (groups : List Group) : Arguments where
  settingsFile := (groups.filterMap Group.settingsFile?).getLast?
  limit := (groups.filterMap Group.limit?).getLast?
  expression := (groups.filterMap Group.expression?).getLast?
  help := groups.contains .help

/-- What is said later counts, field by field, and asking for help cannot be taken back. -/
def overriddenBy (earlier later : Arguments) : Arguments where
  settingsFile := later.settingsFile.or earlier.settingsFile
  limit := later.limit.or earlier.limit
  expression := later.expression.or earlier.expression
  help := earlier.help || later.help

@[simp] theorem none_overriddenBy (arguments : Arguments) :
    none.overriddenBy arguments = arguments := by
  simp [overriddenBy, none]

@[simp] theorem overriddenBy_ofGroups_nil (arguments : Arguments) :
    arguments.overriddenBy (ofGroups []) = arguments := by
  simp [overriddenBy, ofGroups]

theorem overriddenBy_assoc (first second third : Arguments) :
    (first.overriddenBy second).overriddenBy third =
      first.overriddenBy (second.overriddenBy third) := by
  simp [overriddenBy, Option.or_assoc, Bool.or_assoc]

theorem ofGroups_append (first second : List Group) :
    ofGroups (first ++ second) = (ofGroups first).overriddenBy (ofGroups second) := by
  simp [ofGroups, overriddenBy, List.filterMap_append, List.getLast?_append]

/-! ## Flags -/

variable {arguments asked : Arguments} {fault : UsageFault} {groups : List Group}
  {list written : List String}

theorem ofArgument?_eq_some_help {argument : String} :
    Flag.ofArgument? argument = some .help ↔ argument ∈ ["-h", "--help"] := by
  unfold Flag.ofArgument?
  split <;> simp_all

theorem ofArgument?_eq_some_valued {argument : String} {subject : Subject} :
    Flag.ofArgument? argument = some (.valued subject) ↔
      argument ∈ match subject with
        | .settingsFile => ["-c", "--config"]
        | .limit => ["--max-depth"]
        | .expression => ["-e", "--eval"] := by
  cases subject <;> unfold Flag.ofArgument? <;> split <;> simp_all

theorem read_of_help {flag : String} (asks : Flag.ofArgument? flag = some .help)
    (arguments : Arguments) (rest : List String) :
    arguments.read (flag :: rest) = { arguments with help := true }.read rest := by
  rw [read, asks]

theorem read_of_valued {flag : String} {subject : Subject}
    (valued : Flag.ofArgument? flag = some (.valued subject)) (arguments : Arguments)
    (value : String) (rest : List String) :
    arguments.read (flag :: value :: rest) =
      (arguments.set subject value >>= fun next => next.read rest) := by
  rw [read, valued]
  dsimp only
  cases arguments.set subject value <;> rfl

/-! ## Groups

Reading goes on behind a group with what the group says put over what was said before. -/

theorem overriddenBy_ofGroups_singleton (arguments : Arguments) (group : Group) :
    arguments.overriddenBy (ofGroups [group]) =
      match group with
      | .settingsFile path => { arguments with settingsFile := some path }
      | .limit number => { arguments with limit := some number }
      | .expression text => { arguments with expression := some text }
      | .help => { arguments with help := true } := by
  cases group <;>
    simp [overriddenBy, ofGroups, Group.settingsFile?, Group.limit?, Group.expression?]

theorem read_append_of_written {group : Group} (first : group.Written written)
    (arguments : Arguments) (rest : List String) :
    arguments.read (written ++ rest) =
      (arguments.overriddenBy (ofGroups [group])).read rest := by
  rw [overriddenBy_ofGroups_singleton]
  cases first with
  | @settingsFile flag named path =>
      have valued : Flag.ofArgument? flag = some (.valued .settingsFile) :=
        ofArgument?_eq_some_valued.mpr named
      exact read_of_valued valued arguments path rest
  | @expression flag named text =>
      have valued : Flag.ofArgument? flag = some (.valued .expression) :=
        ofArgument?_eq_some_valued.mpr named
      exact read_of_valued valued arguments text rest
  | @limit value number writes fits =>
      have valued : Flag.ofArgument? "--max-depth" = some (.valued .limit) :=
        ofArgument?_eq_some_valued.mpr List.mem_cons_self
      have set : arguments.set .limit value = .ok { arguments with limit := some number } := by
        simp only [set, naturalBelow?_eq_some_iff.mpr ⟨writes, fits⟩]
      exact (read_of_valued valued arguments value rest).trans (by rw [set]; rfl)
  | help named => exact read_of_help (ofArgument?_eq_some_help.mpr named) arguments rest

theorem read_append_of_spelled (spelled : Spelled groups written) (arguments : Arguments)
    (rest : List String) :
    arguments.read (written ++ rest) = (arguments.overriddenBy (ofGroups groups)).read rest := by
  induction spelled generalizing arguments with
  | nil => rw [overriddenBy_ofGroups_nil, List.nil_append]
  | @cons group groups written further first others induction =>
      rw [List.append_assoc, read_append_of_written first, induction, overriddenBy_assoc,
        ← ofGroups_append, List.singleton_append]

/-! ## Faults

A list is made of groups, or it is at fault behind some groups. Only a missing value can be
mended by further arguments. -/

/-- What may stand where no group begins. -/
inductive Faulty : List String → UsageFault → Prop
  | unknown {argument : String} (unknown : Flag.ofArgument? argument = .none)
      (rest : List String) : Faulty (argument :: rest) (.unknownArgument argument)
  | unvalued {flag : String} {subject : Subject}
      (valued : Flag.ofArgument? flag = some (.valued subject)) :
      Faulty [flag] (.missingValue flag)
  | noNumber {value : String} (misread : naturalBelow? wordBound value.toList = .none)
      (rest : List String) : Faulty ("--max-depth" :: value :: rest) (.notANumber value)

theorem Faulty.read_eq_error (faulty : Faulty list fault) (arguments : Arguments) :
    arguments.read list = .error fault := by
  cases faulty with
  | unknown unknown rest => rw [read, unknown]
  | unvalued valued => rw [read, valued]
  | @noNumber value misread rest =>
      have valued : Flag.ofArgument? "--max-depth" = some (.valued .limit) :=
        ofArgument?_eq_some_valued.mpr List.mem_cons_self
      have set : arguments.set .limit value = .error (.notANumber value) := by
        simp only [set, misread]
      rw [read_of_valued valued, set]
      rfl

theorem Faulty.append (faulty : Faulty list fault) (final : ∀ flag, fault ≠ .missingValue flag)
    (second : List String) : Faulty (list ++ second) fault := by
  cases faulty with
  | unknown unknown rest => exact .unknown unknown (rest ++ second)
  | @unvalued flag => exact absurd rfl (final flag)
  | noNumber misread rest => exact .noNumber misread (rest ++ second)

theorem written_or_faulty_of_valued {flag : String} {subject : Subject}
    (valued : Flag.ofArgument? flag = some (.valued subject)) (value : String)
    (rest : List String) :
    (∃ group : Group, group.Written [flag, value]) ∨
      ∃ fault, Faulty (flag :: value :: rest) fault := by
  rw [ofArgument?_eq_some_valued] at valued
  cases subject with
  | settingsFile => exact .inl ⟨_, .settingsFile valued value⟩
  | expression => exact .inl ⟨_, .expression valued value⟩
  | limit =>
      cases List.mem_singleton.mp valued
      cases number : naturalBelow? wordBound value.toList with
      | none => exact .inr ⟨_, .noNumber number rest⟩
      | some limit =>
          rcases naturalBelow?_eq_some_iff.mp number with ⟨writes, fits⟩
          exact .inl ⟨_, .limit writes fits⟩

/-- Where the list goes on, it does so with a group or a fault. -/
theorem begins (argument : String) (rest : List String) :
    (∃ group, ∃ written further, Group.Written group written ∧
      argument :: rest = written ++ further ∧ further.length ≤ rest.length) ∨
      ∃ fault, Faulty (argument :: rest) fault := by
  cases flag : Flag.ofArgument? argument with
  | none => exact .inr ⟨_, .unknown flag rest⟩
  | some asks =>
      cases asks with
      | help =>
          exact .inl ⟨.help, [argument], rest, .help (ofArgument?_eq_some_help.mp flag), rfl,
            le_rfl⟩
      | valued subject =>
          cases rest with
          | nil => exact .inr ⟨_, .unvalued flag⟩
          | cons value rest =>
              rcases written_or_faulty_of_valued flag value rest with ⟨group, written⟩ | faulty
              · exact .inl ⟨group, [argument, value], rest, written, rfl, Nat.le_succ _⟩
              · exact .inr faulty

theorem spelled_or_faulty (list : List String) :
    (∃ groups, Spelled groups list) ∨
      ∃ groups written rest fault, Spelled groups written ∧ Faulty rest fault ∧
        list = written ++ rest := by
  cases list with
  | nil => exact .inl ⟨[], .nil⟩
  | cons argument rest =>
      rcases begins argument rest with ⟨group, first, further, written, split, shorter⟩ | faulty
      · rcases spelled_or_faulty further with others | others
        · rcases others with ⟨groups, spelled⟩
          exact .inl ⟨group :: groups, split ▸ .cons written spelled⟩
        · rcases others with ⟨groups, between, rest, fault, spelled, faulty, rfl⟩
          refine .inr ⟨group :: groups, first ++ between, rest, fault, ?_, faulty, ?_⟩
          · exact .cons written spelled
          · rw [split, List.append_assoc]
      · rcases faulty with ⟨fault, faulty⟩
        exact .inr ⟨[], [], argument :: rest, fault, .nil, faulty, rfl⟩
termination_by list.length

theorem read_of_spelled (spelled : Spelled groups list) (arguments : Arguments) :
    arguments.read list = .ok (arguments.overriddenBy (ofGroups groups)) := by
  have behind := read_append_of_spelled spelled arguments []
  rwa [List.append_nil] at behind

theorem read_of_faulty {rest : List String} (spelled : Spelled groups written)
    (faulty : Faulty rest fault) (arguments : Arguments) :
    arguments.read (written ++ rest) = .error fault :=
  (read_append_of_spelled spelled arguments rest).trans (faulty.read_eq_error _)

theorem read_eq_map (arguments : Arguments) (list : List String) :
    arguments.read list = (ofList list).map arguments.overriddenBy := by
  rcases spelled_or_faulty list with
    ⟨groups, spelled⟩ | ⟨groups, written, rest, fault, spelled, faulty, rfl⟩
  · rw [ofList, read_of_spelled spelled, read_of_spelled spelled, none_overriddenBy]
    rfl
  · rw [ofList, read_of_faulty spelled faulty, read_of_faulty spelled faulty]
    rfl

theorem ofList_eq_ok_iff :
    ofList list = .ok asked ↔ ∃ groups, Spelled groups list ∧ asked = ofGroups groups := by
  constructor
  · intro understood
    rcases spelled_or_faulty list with
      ⟨groups, spelled⟩ | ⟨groups, written, rest, fault, spelled, faulty, rfl⟩
    · rw [ofList, read_of_spelled spelled, none_overriddenBy] at understood
      exact ⟨groups, spelled, (Except.ok.inj understood).symm⟩
    · rw [ofList, read_of_faulty spelled faulty] at understood
      cases understood
  · rintro ⟨groups, spelled, rfl⟩
    rw [ofList, read_of_spelled spelled, none_overriddenBy]

theorem ofList_append_of_error (misread : ofList list = .error fault)
    (final : ∀ flag, fault ≠ .missingValue flag) (second : List String) :
    ofList (list ++ second) = .error fault := by
  rcases spelled_or_faulty list with
    ⟨groups, spelled⟩ | ⟨groups, written, rest, found, spelled, faulty, rfl⟩
  · rw [ofList, read_of_spelled spelled] at misread
    cases misread
  · rw [ofList, read_of_faulty spelled faulty] at misread
    cases misread
    rw [List.append_assoc]
    exact read_of_faulty spelled (faulty.append final second) none

/-- A list that only lacks the value of its last flag is no fault yet: more arguments may bring
the value. -/
theorem ofList_joined (first second : List String) :
    (∀ asked, ofList first = .ok asked ↔
      ∃ groups, Spelled groups first ∧ asked = ofGroups groups) ∧
    (∀ asked, ofList first = .ok asked →
      ofList (first ++ second) = (ofList second).map asked.overriddenBy) ∧
    ∀ fault, ofList first = .error fault →
      ((∃ argument, fault = .unknownArgument argument) ∨ ∃ value, fault = .notANumber value) →
      ofList (first ++ second) = .error fault := by
  refine ⟨fun asked => ofList_eq_ok_iff, ?_, ?_⟩
  · intro asked understood
    rcases ofList_eq_ok_iff.mp understood with ⟨groups, spelled, rfl⟩
    rw [ofList, read_append_of_spelled spelled, none_overriddenBy, read_eq_map]
  · intro fault misread final
    refine ofList_append_of_error misread ?_ second
    rintro flag rfl
    rcases final with ⟨_, equal⟩ | ⟨_, equal⟩ <;> cases equal

/-- The value of the first expression looks like a flag, and the number of the last group is
none. -/
theorem ofList_joined_behind_flag_as_value :
    let first := ["-e", "-h", "--max-depth", "+07"]
    let faulty := ["-h", "--max-depth", "-1"]
    ofList first = .ok ⟨.none, some 7, some "-h", false⟩ ∧
      ofList (first ++ ["-h", "-e", "1"]) = .ok ⟨.none, some 7, some "1", true⟩ ∧
      ofList (faulty ++ first) = .error (.notANumber "-1") := by
  intro first faulty
  have read : ofList first = .ok ⟨.none, some 7, some "-h", false⟩ := by decide +kernel
  have misread : ofList faulty = .error (.notANumber "-1") := by decide +kernel
  have joined := (ofList_joined first ["-h", "-e", "1"]).2.1 _ read
  refine ⟨read, joined.trans (by decide +kernel), ?_⟩
  exact (ofList_joined faulty first).2.2 _ misread (.inr ⟨"-1", rfl⟩)

end Arguments

end DeskCalculator
