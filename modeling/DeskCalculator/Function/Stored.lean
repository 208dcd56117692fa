import DeskCalculator.Function
import DeskCalculator.Json.Choice
import DeskCalculator.Json.StringText

namespace DeskCalculator.Function

def ofStoredName? (name : List Char) : Option Function :=
  all.find? fun function => function.storedName.toList == name

def toJson (function : Function) : List Char :=
  Json.stringText function.storedName.toList

def ofJson (text : List Char) : Except Json.Fault Function :=
  Json.readChoice ofStoredName? text

example : ofJson "\x7b\"sin\": null\x7d".toList = .ok sine := by decide +kernel

end DeskCalculator.Function
