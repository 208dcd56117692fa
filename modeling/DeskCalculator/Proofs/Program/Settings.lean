import DeskCalculator.Proofs.Json.Record
import DeskCalculator.Proofs.Program.Start

/-! A settings file names some of the settings, and the others have their defaults. The command
line may replace the nesting limit. Both limits are checked, the one that is replaced as
well. -/

namespace DeskCalculator

/-! ## What a file names -/

/-- The settings that a text names, and none of those that it does not. -/
structure NamedSettings where
  limit : Option Nat
  scientific : Option Bool
  logFile : Option (Option (List Char))
deriving DecidableEq, Repr

namespace NamedSettings

def none : NamedSettings :=
  ⟨.none, .none, .none⟩

def fields : List (Json.Field NamedSettings) :=
  [Json.naturalField "max_depth" fun limit named => { named with limit := some limit },
    Json.booleanField "scientific" fun scientific named =>
      { named with scientific := some scientific },
    Json.optionalTextField "log_file" fun logFile named =>
      { named with logFile := some logFile }]

def ofJson (text : List Char) : Except Json.Fault NamedSettings :=
  Json.readRecord fields none text

/-- What is not named has its default. -/
def settings (named : NamedSettings) : Settings :=
  ⟨named.limit.getD 1000, named.scientific.getD false, named.logFile.getD .none⟩

theorem fields_seen :
    List.Forall₂ (Json.Field.Seen settings) fields Settings.fields :=
  .cons (Json.naturalField_seen _ fun _ _ => rfl)
    (.cons (Json.booleanField_seen _ fun _ _ => rfl)
      (.cons (Json.optionalTextField_seen _ fun _ _ => rfl) .nil))

end NamedSettings

theorem Settings.ofJson_eq_map (text : List Char) :
    ofJson text = (NamedSettings.ofJson text).map NamedSettings.settings :=
  Json.readRecord_seen NamedSettings.fields_seen NamedSettings.none text

/-! ## Limits -/

theorem limitFault?_eq_none_iff {limit : Nat} :
    limitFault? limit = none ↔ 1 ≤ limit ∧ limit ≤ 10000 := by
  unfold limitFault? Expression.largestLimit
  split
  · exact iff_of_false nofun (by omega)
  · split
    · exact iff_of_false nofun (by omega)
    · exact iff_of_true rfl (by omega)

theorem Settings.checked_eq_ok_iff {settings result : Settings} :
    settings.checked = .ok result ↔
      (1 ≤ settings.limit ∧ settings.limit ≤ 10000) ∧ settings = result := by
  rw [← limitFault?_eq_none_iff]
  unfold checked
  cases limitFault? settings.limit <;> simp

theorem Settings.exists_of_checked {settings : Settings}
    (outside : ¬(1 ≤ settings.limit ∧ settings.limit ≤ 10000)) :
    ∃ fault, settings.checked = .error (.limit fault) := by
  rw [← limitFault?_eq_none_iff] at outside
  rcases Option.ne_none_iff_exists'.mp outside with ⟨fault, found⟩
  refine ⟨fault, ?_⟩
  simp only [checked, found]

namespace Arguments

variable {system : FileSystem} {asked : Arguments} {state : system.State}
  {named : NamedSettings} {path : String}

/-! ## From the file to the settings -/

/-- What the file that the command line asks for names. Without a file nothing is named. -/
inductive Names (asked : Arguments) (state : system.State) : NamedSettings → Prop
  | noFile (absent : asked.settingsFile = .none) : Names asked state .none
  | file {path : String} {content : List UInt8} {text : List Char} {named : NamedSettings}
      (given : asked.settingsFile = some path)
      (read : system.read state path.toList = .ok content)
      (decoded : Text.decode? content = some text)
      (parsed : NamedSettings.ofJson text = .ok named) : Names asked state named

theorem settingsIn_of_noFile (absent : asked.settingsFile = .none) (state : system.State) :
    asked.settingsIn state = asked.adjust .default := by
  simp only [settingsIn, settings, absent, Inquiry.settle]

theorem settingsIn_of_file (given : asked.settingsFile = some path) (state : system.State) :
    asked.settingsIn state =
      (Settings.ofRead path.toList (system.read state path.toList)).bind asked.adjust := by
  simp only [settingsIn, settings, given, Inquiry.settle_andThen, Settings.settle_ofFile]
  cases Settings.ofRead path.toList (system.read state path.toList) <;> rfl

theorem Names.settingsIn_eq (names : asked.Names state named) :
    asked.settingsIn state = named.settings.checked.bind asked.adjust := by
  cases names with
  | noFile absent =>
      rw [settingsIn_of_noFile absent]
      rfl
  | @file path content text named given read decoded parsed =>
      have stored := Settings.ofJson_eq_map text
      rw [parsed] at stored
      rw [settingsIn_of_file given, read, Settings.ofRead, Settings.ofContent, decoded]
      dsimp only
      rw [stored]
      rfl

theorem exists_names_of_settingsIn {settings : Settings}
    (settled : asked.settingsIn state = .ok settings) :
    ∃ named, asked.Names state named := by
  cases given : asked.settingsFile with
  | none => exact ⟨.none, .noFile given⟩
  | some path =>
      rw [settingsIn_of_file given] at settled
      cases read : system.read state path.toList with
      | error fault =>
          rw [read] at settled
          cases settled
      | ok content =>
          rw [read, Settings.ofRead, Settings.ofContent] at settled
          cases decoded : Text.decode? content with
          | none =>
              rw [decoded] at settled
              cases settled
          | some text =>
              rw [decoded] at settled
              dsimp only at settled
              rw [Settings.ofJson_eq_map] at settled
              cases parsed : NamedSettings.ofJson text with
              | error fault =>
                  rw [parsed] at settled
                  cases settled
              | ok named => exact ⟨named, .file given read decoded parsed⟩

/-- Both limits are in bounds, the one named and the one that counts. -/
theorem settingsIn_eq_ok_iff {settings : Settings} :
    asked.settingsIn state = .ok settings ↔
      ∃ named, asked.Names state named ∧
        (1 ≤ named.settings.limit ∧ named.settings.limit ≤ 10000) ∧
        settings = { named.settings with limit := asked.limit.getD named.settings.limit } ∧
        1 ≤ settings.limit ∧ settings.limit ≤ 10000 := by
  constructor
  · intro settled
    rcases exists_names_of_settingsIn settled with ⟨named, names⟩
    rw [names.settingsIn_eq] at settled
    cases checked : named.settings.checked with
    | error failure =>
        rw [checked] at settled
        cases settled
    | ok stored =>
        rw [checked] at settled
        rcases Settings.checked_eq_ok_iff.mp checked with ⟨bounds, rfl⟩
        rcases Settings.checked_eq_ok_iff.mp settled with ⟨adjusted, rfl⟩
        exact ⟨named, names, bounds, rfl, adjusted⟩
  · rintro ⟨named, names, bounds, equal, adjusted⟩
    rw [names.settingsIn_eq, Settings.checked_eq_ok_iff.mpr ⟨bounds, rfl⟩]
    refine Settings.checked_eq_ok_iff.mpr ⟨?_, equal.symm⟩
    rw [← equal]
    exact adjusted

/-! ## Failures -/

theorem settingsIn_of_unreadable {fault : FileFault} (given : asked.settingsFile = some path)
    (unreadable : system.read state path.toList = .error fault) :
    asked.settingsIn state = .error (.input fault) := by
  rw [settingsIn_of_file given, unreadable]
  rfl

theorem settingsIn_of_undecodable {content : List UInt8}
    (given : asked.settingsFile = some path)
    (read : system.read state path.toList = .ok content)
    (undecodable : Text.decode? content = .none) :
    asked.settingsIn state = .error (.input .undecodable) := by
  rw [settingsIn_of_file given, read, Settings.ofRead, Settings.ofContent, undecodable]
  rfl

theorem settingsIn_of_malformed {content : List UInt8} {text : List Char} {fault : Json.Fault}
    (given : asked.settingsFile = some path)
    (read : system.read state path.toList = .ok content)
    (decoded : Text.decode? content = some text)
    (malformed : Settings.ofJson text = .error fault) :
    asked.settingsIn state = .error (.settingsText path.toList text fault) := by
  rw [settingsIn_of_file given, read, Settings.ofRead, Settings.ofContent, decoded]
  dsimp only
  rw [malformed]
  rfl

theorem exists_fault_of_named_outside (names : asked.Names state named)
    (outside : ¬(1 ≤ named.settings.limit ∧ named.settings.limit ≤ 10000)) :
    ∃ fault, asked.settingsIn state = .error (.limit fault) := by
  rcases Settings.exists_of_checked outside with ⟨fault, checked⟩
  refine ⟨fault, ?_⟩
  rw [names.settingsIn_eq, checked]
  rfl

theorem exists_failure_of_asked_outside {limit : Nat} (given : asked.limit = some limit)
    (outside : ¬(1 ≤ limit ∧ limit ≤ 10000)) (state : system.State) :
    ∃ failure, asked.settingsIn state = .error failure := by
  cases settled : asked.settingsIn state with
  | error failure => exact ⟨failure, rfl⟩
  | ok settings =>
      rcases settingsIn_eq_ok_iff.mp settled with ⟨named, -, -, rfl, adjusted⟩
      rw [given] at adjusted
      exact absurd adjusted outside

end Arguments

end DeskCalculator
