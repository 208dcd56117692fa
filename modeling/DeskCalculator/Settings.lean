import DeskCalculator.Expression.Evaluation
import DeskCalculator.Json.Record
import DeskCalculator.Json.StringText

/-! The settings of a run: the nesting limit, whether scientific mode is on from the
start, and the file that log lines go to, if they go to a file. -/

namespace DeskCalculator

structure Settings where
  limit : Nat
  scientific : Bool
  logFile : Option (List Char)
deriving DecidableEq, Repr

inductive LimitFault where
  | zero
  | aboveLargest (limit : Nat)
deriving DecidableEq, Repr

def LimitFault.message : LimitFault → String
  | zero => "max_depth must be at least 1"
  | aboveLargest limit => s!"max_depth must be at most {Expression.largestLimit}, got {limit}"

def limitFault? (limit : Nat) : Option LimitFault :=
  if limit = 0 then some .zero
  else if Expression.largestLimit < limit then some (.aboveLargest limit)
  else none

/-! ## Stored form -/

namespace Settings

def default : Settings :=
  ⟨Expression.defaultLimit, false, none⟩

def fields : List (Json.Field Settings) :=
  [Json.naturalField "max_depth" fun limit settings => { settings with limit },
    Json.booleanField "scientific" fun scientific settings => { settings with scientific },
    Json.optionalTextField "log_file" fun logFile settings => { settings with logFile }]

/-- The settings that a text stores. What it does not name has its default. -/
def ofJson (text : List Char) : Except Json.Fault Settings :=
  Json.readRecord fields default text

def toJson (settings : Settings) : List Char :=
  "\x7b\"max_depth\":".toList ++ Text.digitsOfNatural settings.limit ++
    ",\"scientific\":".toList ++ (if settings.scientific then "true" else "false").toList ++
    ",\"log_file\":".toList ++
    (match settings.logFile with
      | some name => Json.stringText name
      | none => "null".toList) ++ "\x7d".toList

example : ofJson "\x7b\"log_file\": \"a\\nb\", \"else\": [1]\x7d".toList =
    .ok { default with logFile := some "a\nb".toList } := by decide +kernel

end Settings

/-! A nesting limit is also stored on its own, as a record with one field. -/

def limitField : Json.Field Nat :=
  Json.naturalField "max_depth" fun limit _ => limit

def limitOfJson (text : List Char) : Except Json.Fault Nat :=
  Json.readRecord [limitField] Expression.defaultLimit text

def limitToJson (limit : Nat) : List Char :=
  "\x7b\"max_depth\":".toList ++ Text.digitsOfNatural limit ++ "\x7d".toList

/-! ## Stack -/

/-- The bytes of stack for an evaluation with this nesting limit: a mebibyte, and 16
kibibytes for each level. The share of the levels stops growing at the largest
number of 64 bits. -/
def stackBytes (limit : Nat) : Nat :=
  1048576 + min (limit * 16384) (Text.wordBound - 1)

end DeskCalculator
