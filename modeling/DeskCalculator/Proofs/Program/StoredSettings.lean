import DeskCalculator.Proofs.Json.Object
import DeskCalculator.Program.Files
import DeskCalculator.Proofs.Program.Settings

/-! A settings file is an object that names some of the settings, in any order and among other
members. What it names replaces the default, and nothing else does. What is written for
settings is such an object. -/

namespace DeskCalculator

open Text (wordBound)

theorem decode?_fileBytes (text : String) : Text.decode? (fileBytes text) = some text.toList := by
  have valid : text.toUTF8.IsValidUTF8 := text.isValidUTF8
  have same : (⟨(fileBytes text).toArray⟩ : ByteArray) = text.toUTF8 := by
    rw [fileBytes, Array.toArray_toList]
  rw [Text.decode?, same, String.fromUTF8?, dif_pos valid]
  rfl

/-! ## What sets a field -/

namespace Json

variable {Record : Type} {token : Token} {change : Record → Record} {name : String}

theorem exists_of_naturalField {set : Nat → Record → Record}
    (sets : (naturalField name set).set token = .ok change) : ∃ value, change = set value := by
  unfold naturalField at sets
  dsimp only at sets
  split at sets
  · split at sets
    · exact ⟨_, (Except.ok.inj sets).symm⟩
    · cases sets
  · cases sets

theorem exists_of_booleanField {set : Bool → Record → Record}
    (sets : (booleanField name set).set token = .ok change) : ∃ value, change = set value := by
  unfold booleanField at sets
  dsimp only at sets
  split at sets
  · exact ⟨_, (Except.ok.inj sets).symm⟩
  · cases sets

theorem exists_of_optionalTextField {set : Option (List Char) → Record → Record}
    (sets : (optionalTextField name set).set token = .ok change) :
    ∃ value, change = set value := by
  unfold optionalTextField at sets
  dsimp only at sets
  split at sets
  · exact ⟨_, (Except.ok.inj sets).symm⟩
  · exact ⟨_, (Except.ok.inj sets).symm⟩
  · cases sets

theorem naturalField_set {set : Nat → Record → Record} {value : Nat}
    (bounded : value < wordBound) :
    (naturalField name set).set (.number (some value) true) = .ok (set value) :=
  if_pos bounded

/-- A string, or null for none. -/
def optionalTextToken : Option (List Char) → Token
  | none => .null
  | some text => .string (some text)

theorem optionalTextField_set {set : Option (List Char) → Record → Record}
    (value : Option (List Char)) :
    (optionalTextField name set).set (optionalTextToken value) = .ok (set value) := by
  cases value <;> rfl

end Json

/-! ## Objects that name settings -/

namespace NamedSettings

def limitMember (limit : Nat) : Json.Member :=
  ⟨"max_depth".toList, [.number (some limit) true]⟩

def scientificMember (scientific : Bool) : Json.Member :=
  ⟨"scientific".toList, [.boolean scientific]⟩

def logFileMember (logFile : Option (List Char)) : Json.Member :=
  ⟨"log_file".toList, [Json.optionalTextToken logFile]⟩

/-- The members that name the settings, each at most once. -/
def members (named : NamedSettings) : List Json.Member :=
  (named.limit.map limitMember).toList ++ (named.scientific.map scientificMember).toList ++
    (named.logFile.map logFileMember).toList

/-- A text writes an object that names these settings, in any order and among any members
with other names. -/
structure WrittenAs (named : NamedSettings) (text : List Char) : Prop where
  bounded : ∀ limit, named.limit = some limit → limit < wordBound
  spells : ∃ members others, List.Perm members (named.members ++ others) ∧
    (∀ other ∈ others, other.name ∉ ["max_depth".toList, "scientific".toList, "log_file".toList]) ∧
    (∀ other ∈ others, Json.IsPhrase .value other.value) ∧
    Json.Spells (Json.objectTokens members) text

theorem independent_fields : Json.Independent fields := by
  refine .cons (List.forall_mem_cons.mpr ⟨?_, List.forall_mem_singleton.mpr ?_⟩)
    (.cons (List.forall_mem_singleton.mpr ?_) (List.pairwise_singleton _ _))
  · intro token otherToken change otherChange sets otherSets record
    rcases Json.exists_of_naturalField sets with ⟨limit, rfl⟩
    rcases Json.exists_of_booleanField otherSets with ⟨scientific, rfl⟩
    rfl
  · intro token otherToken change otherChange sets otherSets record
    rcases Json.exists_of_naturalField sets with ⟨limit, rfl⟩
    rcases Json.exists_of_optionalTextField otherSets with ⟨logFile, rfl⟩
    rfl
  · intro token otherToken change otherChange sets otherSets record
    rcases Json.exists_of_booleanField sets with ⟨scientific, rfl⟩
    rcases Json.exists_of_optionalTextField otherSets with ⟨logFile, rfl⟩
    rfl

theorem find?_fields_of_other {name : List Char}
    (other : name ∉ ["max_depth".toList, "scientific".toList, "log_file".toList]) :
    fields.find? (·.name == name) = .none := by
  simp only [List.mem_cons, List.not_mem_nil, or_false, not_or] at other
  simp only [List.find?_eq_none, fields, List.mem_cons, List.not_mem_nil, or_false, beq_iff_eq]
  rintro field (rfl | rfl | rfl) same
  · exact other.1 same.symm
  · exact other.2.1 same.symm
  · exact other.2.2 same.symm

section

variable {named : List (List Char)} {record result : NamedSettings} {members : List Json.Member}

theorem fills_limit {limit : Nat} (bounded : limit < wordBound)
    (unnamed : "max_depth".toList ∉ named)
    (rest : Json.Fills fields ("max_depth".toList :: named) { record with limit := some limit }
      members result) :
    Json.Fills fields named record (limitMember limit :: members) result :=
  .set rfl rfl (Json.naturalField_set bounded) unnamed rest

theorem fills_scientific {scientific : Bool} (unnamed : "scientific".toList ∉ named)
    (rest : Json.Fills fields ("scientific".toList :: named)
      { record with scientific := some scientific } members result) :
    Json.Fills fields named record (scientificMember scientific :: members) result :=
  .set rfl rfl rfl unnamed rest

theorem fills_logFile {logFile : Option (List Char)} (unnamed : "log_file".toList ∉ named)
    (rest : Json.Fills fields ("log_file".toList :: named) { record with logFile := some logFile }
      members result) :
    Json.Fills fields named record (logFileMember logFile :: members) result :=
  .set rfl rfl (Json.optionalTextField_set logFile) unnamed rest

end

theorem fills_members {named : NamedSettings}
    (bounded : ∀ limit, named.limit = some limit → limit < wordBound) :
    Json.Fills fields [] none named.members named := by
  rcases named with ⟨_ | limit, _ | scientific, _ | logFile⟩
  · exact .nil _ _
  · exact fills_logFile (by decide) (.nil _ _)
  · exact fills_scientific (by decide) (.nil _ _)
  · exact fills_scientific (by decide) (fills_logFile (by decide) (.nil _ _))
  · exact fills_limit (bounded limit rfl) (by decide) (.nil _ _)
  · exact fills_limit (bounded limit rfl) (by decide) (fills_logFile (by decide) (.nil _ _))
  · exact fills_limit (bounded limit rfl) (by decide) (fills_scientific (by decide) (.nil _ _))
  · exact fills_limit (bounded limit rfl) (by decide) (fills_scientific (by decide)
      (fills_logFile (by decide) (.nil _ _)))

theorem ofJson_of_writtenAs {named : NamedSettings} {text : List Char}
    (written : named.WrittenAs text) : ofJson text = .ok named := by
  rcases written.spells with ⟨members, others, order, unknown, areValues, spells⟩
  have fills := (fills_members written.bounded).append
    (fun other member => find?_fields_of_other (unknown other member)) areValues
  exact Json.readRecord_of_fills (fills.perm independent_fields order.symm) spells

end NamedSettings

namespace Json

theorem Spells.cons {token : Token} {tokens : List Token} {text rest : List Char}
    (writes : WritesToken token text) (ends : token.EndsBefore rest) (spells : Spells tokens rest) :
    Spells (token :: tokens) (text ++ rest) :=
  .token Text.throughout_nil writes ends spells

theorem writesToken_stringText (text : List Char) :
    WritesToken (.string (some text)) (stringText text) :=
  .text (writesText_escaped text)

theorem writesToken_boolean (value : Bool) :
    WritesToken (.boolean value) (if value then "true" else "false").toList := by
  cases value
  · exact .false
  · exact .true

def optionalText : Option (List Char) → List Char
  | some text => stringText text
  | none => "null".toList

theorem writesToken_optionalText (value : Option (List Char)) :
    WritesToken (optionalTextToken value) (optionalText value) := by
  cases value with
  | none => exact .null
  | some text => exact writesToken_stringText text

theorem writesToken_natural {value : Nat} (bounded : value < wordBound) :
    WritesToken (.number (some value) true) (Text.digitsOfNatural value) := by
  have natural := WritesToken.natural (Number.isWhole_digitsOfNatural value)
  rw [Text.naturalOfDigits_digitsOfNatural] at natural
  exact natural bounded

/-- The name of a member as it is stored, with the one token of its value. -/
theorem Spells.member {name : List Char} {token : Token} {tokens : List Token}
    {text rest : List Char} (writes : WritesToken token text) (ends : token.EndsBefore rest)
    (spells : Spells tokens rest) :
    Spells (.string (some name) :: .colon :: token :: tokens)
      (stringText name ++ ([':'] ++ (text ++ rest))) :=
  .cons (writesToken_stringText name) trivial (.cons .colon trivial (.cons writes ends spells))

theorem Spells.closeBrace : Spells [.closeBrace] ['}'] :=
  .cons .closeBrace trivial (.blanks Text.throughout_nil)

end Json

/-! ## Loading -/

theorem read_onlyFile (content : List UInt8) :
    Files.read (.here [(['c'], content)]) ['c'] = .ok content :=
  rfl

namespace Settings

variable {system : FileSystem} {state : system.State}

theorem settle_ofFile_of_writtenAs {named : NamedSettings} {text path : List Char}
    (written : named.WrittenAs text)
    (read : system.read state path = .ok (fileBytes (String.ofList text))) :
    (ofFile path).settle state = (named.settings.checked, state) := by
  have stored := ofJson_eq_map text
  rw [NamedSettings.ofJson_of_writtenAs written] at stored
  rw [settle_ofFile, read, ofRead, ofContent, decode?_fileBytes, String.toList_ofList]
  dsimp only
  rw [stored]
  rfl

/-- A file only changes the settings that it names. -/
theorem file_replaces_named {named : NamedSettings} {text path : List Char}
    (written : named.WrittenAs text)
    (read : system.read state path = .ok (fileBytes (String.ofList text))) :
    (1 ≤ named.limit.getD 1000 ∧ named.limit.getD 1000 ≤ 10000 →
        (ofFile path).settle state =
          (.ok ⟨named.limit.getD 1000, named.scientific.getD false, named.logFile.getD none⟩,
            state)) ∧
      (¬(1 ≤ named.limit.getD 1000 ∧ named.limit.getD 1000 ≤ 10000) →
        ∃ fault, (ofFile path).settle state = (.error (.limit fault), state)) ∧
      ∀ (otherSystem : FileSystem) (otherState : otherSystem.State) (otherText otherPath),
        named.WrittenAs otherText →
        otherSystem.read otherState otherPath = .ok (fileBytes (String.ofList otherText)) →
          ((ofFile otherPath).settle otherState).1 = ((ofFile path).settle state).1 := by
  have loaded := settle_ofFile_of_writtenAs written read
  refine ⟨fun bounds => ?_, fun outside => ?_, fun _ _ _ _ otherWritten otherRead => ?_⟩
  · rw [loaded, checked_eq_ok_iff.mpr ⟨bounds, rfl⟩]
    rfl
  · have faulty : ∃ fault, named.settings.checked = .error (.limit fault) :=
      exists_of_checked outside
    rcases faulty with ⟨fault, checked⟩
    exact ⟨fault, by rw [loaded, checked]⟩
  · rw [loaded, settle_ofFile_of_writtenAs otherWritten otherRead]

open Json in
/-- Another member may hold anything, such as a number that is out of range. -/
theorem file_replaces_named_among_others :
    let named : NamedSettings := ⟨none, some true, none⟩
    let text := "\x7b\"\\/\":[1e999] ,\"scientific\":true\x7d".toList
    let state : Files.system.State := Files.here [(['c'], fileBytes (String.ofList text))]
    named.WrittenAs text ∧
      (ofFile ['c']).settle state = (.ok ⟨1000, true, none⟩, state) := by
  intro named text state
  have name : WritesText ['\\', '/'] ['/'] := .escape (by decide) .nil
  have power : WritesExponent (some 999) ['e', '9', '9', '9'] :=
    @WritesExponent.some 'e' [] ['9', '9', '9'] (.inl rfl) (.inl rfl) (by decide) (by decide)
  have one : Number.IsWhole ['1'] := ⟨by decide, by decide, .inr (by decide)⟩
  have outOfRange : numberToken false ['1'] none (some 999) = .number none false := by
    decide +kernel
  have number : WritesToken (.number none false) ['1', 'e', '9', '9', '9'] :=
    outOfRange ▸ .number (.parts false one .none power)
  have parts : text = ['{'] ++ ('"' :: (['\\', '/'] ++ ['"']) ++ ([':'] ++ (['['] ++
      (['1', 'e', '9', '9', '9'] ++ ([']'] ++ ([' '] ++ ([','] ++
      (stringText "scientific".toList ++ ([':'] ++ ("true".toList ++ ['}'])))))))))) := by
    decide
  have spells : Spells
      [.openBrace, .string (some ['/']), .colon, .openBracket, .number none false, .closeBracket,
        .comma, .string (some "scientific".toList), .colon, .boolean true, .closeBrace] text := by
    rw [parts]
    exact .cons .openBrace trivial <| .cons (.text name) trivial <| .cons .colon trivial <|
      .cons .openBracket trivial <| .cons number ((Text.notAhead_cons _ _).mpr rfl) <|
      .cons .closeBracket trivial <|
      .token (by decide) .comma trivial <| .member .true trivial .closeBrace
  let other : Member := ⟨['/'], [.openBracket, .number none false, .closeBracket]⟩
  have isValue : IsPhrase .value other.value := .array (.element (.number none false))
  have written : named.WrittenAs text :=
    ⟨nofun, [other, NamedSettings.scientificMember true], [other], .swap _ _ _,
      List.forall_mem_singleton.mpr (by decide), List.forall_mem_singleton.mpr isValue, spells⟩
  have read : Files.system.read state ['c'] = .ok (fileBytes (String.ofList text)) :=
    read_onlyFile _
  exact ⟨written, (file_replaces_named written read).1 (by decide)⟩

end Settings

/-! ## Storing -/

namespace Settings

/-- The settings, all of them named. -/
def named (settings : Settings) : NamedSettings :=
  ⟨some settings.limit, some settings.scientific, some settings.logFile⟩

open Json in
theorem toJson_eq (settings : Settings) :
    settings.toJson = ['{'] ++ (stringText "max_depth".toList ++ ([':'] ++
      (Text.digitsOfNatural settings.limit ++ ([','] ++ (stringText "scientific".toList ++
      ([':'] ++ ((if settings.scientific then "true" else "false").toList ++ ([','] ++
      (stringText "log_file".toList ++ ([':'] ++ (optionalText settings.logFile ++
      ['}']))))))))))) := by
  have parts : settings.toJson = "\x7b\"max_depth\":".toList ++
      (Text.digitsOfNatural settings.limit ++ (",\"scientific\":".toList ++
      ((if settings.scientific then "true" else "false").toList ++ (",\"log_file\":".toList ++
      (optionalText settings.logFile ++ "\x7d".toList))))) := by
    unfold toJson
    simp only [List.append_assoc]
    rcases settings with ⟨_, _, _ | _⟩ <;> rfl
  have limit : "\x7b\"max_depth\":".toList =
      ['{'] ++ (stringText "max_depth".toList ++ [':']) := by decide
  have scientific : ",\"scientific\":".toList =
      [','] ++ (stringText "scientific".toList ++ [':']) := by decide
  have logFile : ",\"log_file\":".toList = [','] ++ (stringText "log_file".toList ++ [':']) := by
    decide
  have closing : "\x7d".toList = ['}'] := by decide
  rw [parts, limit, scientific, logFile, closing]
  simp only [List.append_assoc]

open Json in
theorem spells_toJson {settings : Settings} (bounded : settings.limit < wordBound) :
    Spells (objectTokens settings.named.members) settings.toJson := by
  have atEnd : (optionalTextToken settings.logFile).EndsBefore ['}'] := by
    cases settings.logFile <;> trivial
  have tokens : objectTokens settings.named.members =
      [.openBrace, .string (some "max_depth".toList), .colon, .number (some settings.limit) true,
        .comma, .string (some "scientific".toList), .colon, .boolean settings.scientific, .comma,
        .string (some "log_file".toList), .colon, optionalTextToken settings.logFile,
        .closeBrace] := rfl
  rw [tokens, toJson_eq]
  exact .cons .openBrace trivial <|
    .member (writesToken_natural bounded) ((Text.notAhead_cons _ _).mpr rfl) <|
    .cons .comma trivial <| .member (writesToken_boolean _) trivial <|
    .cons .comma trivial <| .member (writesToken_optionalText _) atEnd .closeBrace

theorem writtenAs_toJson {settings : Settings} (bounded : settings.limit < wordBound) :
    settings.named.WrittenAs settings.toJson where
  bounded limit equal := Option.some.inj equal ▸ bounded
  spells := ⟨settings.named.members, [], by rw [List.append_nil], nofun, nofun,
    spells_toJson bounded⟩

end Settings

open Json in
theorem limitOfJson_limitToJson {limit : Nat} (bounded : limit < wordBound) :
    limitOfJson (limitToJson limit) = .ok limit := by
  have fills : Fills [limitField] [] Expression.defaultLimit [NamedSettings.limitMember limit]
      limit := .set rfl rfl (naturalField_set bounded) List.not_mem_nil (.nil _ _)
  have tokens : objectTokens [NamedSettings.limitMember limit] =
      [.openBrace, .string (some "max_depth".toList), .colon, .number (some limit) true,
        .closeBrace] := rfl
  have name : "\x7b\"max_depth\":".toList =
      ['{'] ++ (stringText "max_depth".toList ++ [':']) := by decide
  have closing : "\x7d".toList = ['}'] := by decide
  refine readRecord_of_fills fills ?_
  rw [tokens]
  unfold limitToJson
  rw [name, closing]
  simp only [List.append_assoc]
  exact .cons .openBrace trivial <|
    .member (writesToken_natural bounded) ((Text.notAhead_cons _ _).mpr rfl) .closeBrace

/-- What is stored loads as it was, whatever characters the path of the log file has. -/
theorem stored_settings_load {system : FileSystem} {state : system.State} {settings : Settings}
    {path : List Char} (least : 1 ≤ settings.limit) (most : settings.limit ≤ 10000)
    (read : system.read state path = .ok (fileBytes (String.ofList settings.toJson))) :
    (Settings.ofFile path).settle state = (.ok settings, state) ∧
      ∀ limit < 2 ^ 64, limitOfJson (limitToJson limit) = .ok limit := by
  have bounded : settings.limit < wordBound := Nat.lt_of_le_of_lt most (by decide)
  refine ⟨?_, fun limit bounded => limitOfJson_limitToJson bounded⟩
  rw [Settings.settle_ofFile_of_writtenAs (Settings.writtenAs_toJson bounded) read]
  exact congrArg (·, state) (Settings.checked_eq_ok_iff.mpr ⟨⟨least, most⟩, rfl⟩)

theorem stored_settings_load_with_escapes :
    let settings : Settings := ⟨7, true, some "\"\\\n\x01é😀".toList⟩
    let state : Files.system.State :=
      Files.here [(['c'], fileBytes (String.ofList settings.toJson))]
    (Settings.ofFile ['c']).settle state = (.ok settings, state) ∧
      ∀ limit < 2 ^ 64, limitOfJson (limitToJson limit) = .ok limit := by
  intro settings state
  have read : Files.system.read state ['c'] = .ok (fileBytes (String.ofList settings.toJson)) :=
    read_onlyFile _
  exact stored_settings_load (by decide) (by decide) read

end DeskCalculator
