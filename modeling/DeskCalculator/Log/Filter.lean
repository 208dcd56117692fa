import DeskCalculator.Log.Entry
import DeskCalculator.Text.Blank
import DeskCalculator.Text.Plain

/-! A filter lets entries pass up to a severity. Its settings are for the categories whose tag
starts with a given text; the empty text is for all of them. It may have a pattern too, and
then only messages that match pass. What it is to match is left open. -/

namespace DeskCalculator.Log

/-- The least grave severity that passes, or none when nothing does. -/
abbrev Threshold := Option Severity

def Threshold.passes (threshold : Threshold) (severity : Severity) : Bool :=
  match threshold with
  | none => false
  | some least => severity.rank ≤ least.rank

structure Setting where
  tagStart : List Char
  threshold : Threshold
deriving DecidableEq, Repr

structure Filter where
  settings : List Setting
  pattern : Option (List Char)
deriving DecidableEq, Repr

namespace Filter

def default : Filter :=
  ⟨[⟨[], some .warning⟩], none⟩

/-- Of the settings for a category the most specific counts, and of equally specific
ones the last. Without any, nothing passes. -/
def threshold (filter : Filter) (category : Category) : Threshold :=
  let concerned := filter.settings.filter fun setting =>
    setting.tagStart.isPrefixOf category.tag.toList
  let moreSpecific (best setting : Setting) : Setting :=
    if best.tagStart.length ≤ setting.tagStart.length then setting else best
  (concerned.foldl moreSpecific ⟨[], none⟩).threshold

def passes (isMatch : List Char → List Char → Bool) (filter : Filter) (entry : Entry) : Bool :=
  (filter.threshold entry.category).passes entry.severity &&
    filter.pattern.all fun pattern => isMatch pattern entry.message.toList

/-! A filter is written as settings with commas between them: a severity in any case or `off`,
the start of a tag, or the start of a tag, an equals sign and a severity. The start of a tag
alone lets everything pass. A text without any setting leaves errors. Behind a slash stands the
pattern, and nothing is read from a text with more slashes. -/

def threshold? (name : List Char) : Option Threshold :=
  match String.ofList (name.map Char.toLower) with
  | "off" => some none
  | "error" => some (some .error)
  | "warn" => some (some .warning)
  | "info" => some (some .information)
  | "debug" => some (some .debug)
  | "trace" => some (some .trace)
  | _ => none

def setting? (text : List Char) : Option Setting :=
  let start := text.takeWhile (· != '=')
  match text.dropWhile (· != '=') with
  | [] =>
      if start.isEmpty then none
      else
        match threshold? start with
        | some threshold => some ⟨[], threshold⟩
        | none => some ⟨start, some .trace⟩
  | ['='] => some ⟨start, some .trace⟩
  | _ :: severity => (threshold? (Text.trim severity)).map (Setting.mk start)

def pieces (separator : Char) : List Char → List (List Char)
  | [] => [[]]
  | character :: rest =>
      if character = separator then [] :: pieces separator rest
      else
        match pieces separator rest with
        | [] => [[character]]
        | piece :: others => (character :: piece) :: others

def settingsOfText (text : List Char) : List Setting :=
  match (pieces ',' text).filterMap fun piece => setting? (Text.trim piece) with
  | [] => [⟨[], some .error⟩]
  | settings => settings

def ofText (text : List Char) : Filter :=
  match pieces '/' text with
  | [settings] => ⟨settingsOfText settings, none⟩
  | [settings, pattern] => ⟨settingsOfText settings, some pattern⟩
  | _ => ⟨settingsOfText [], none⟩

example : ofText "error, EVAL=off/fail".toList =
    ⟨[⟨[], some .error⟩, ⟨"EVAL".toList, none⟩], some "fail".toList⟩ := by decide +kernel

/-- A pattern without signs of its own matches a message that it stands in. -/
def standsIn (pattern : List Char) : List Char → Bool
  | [] => pattern.isEmpty
  | character :: rest =>
      pattern.isPrefixOf (character :: rest) || standsIn pattern rest

/-- The backend with a filter, for a log that is no terminal. -/
def backend (isMatch : List Char → List Char → Bool) (filter : Filter) : Backend :=
  ⟨filter.passes isMatch, Text.plain⟩

end Filter

def Backend.default : Backend :=
  Filter.default.backend Filter.standsIn

end DeskCalculator.Log
