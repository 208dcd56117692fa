/-! A misreading names its cause and the place it is about, counted in characters
from zero. -/

namespace DeskCalculator.Expression

inductive Misreading.Cause where
  | unexpectedCharacter (found : Char)
  | unexpectedEnd
  | trailingInput (found : Char)
  | malformedNumber (text : List Char)
  | nestedTooDeep (limit : Nat)
deriving DecidableEq, Repr

structure Misreading where
  position : Nat
  cause : Misreading.Cause
deriving DecidableEq, Repr

def Misreading.Cause.message : Misreading.Cause → String
  | unexpectedCharacter found => s!"Unexpected character '{found}'"
  | unexpectedEnd => "Unexpected end of input"
  | trailingInput found => s!"Unexpected trailing character '{found}'"
  | malformedNumber text => s!"Malformed number '{String.ofList text}'"
  | nestedTooDeep limit => s!"Expression nested deeper than {limit} levels"

def Misreading.message (misreading : Misreading) : String :=
  s!"{misreading.cause.message} at position {misreading.position}"

example : (Misreading.mk 3 (.trailingInput 'x')).message =
    "Unexpected trailing character 'x' at position 3" := by decide +kernel

end DeskCalculator.Expression
