import DeskCalculator.Expression.Evaluation
import DeskCalculator.Number.Display
import DeskCalculator.Text.Word

/-! The functions of scientific mode take the number on the display and show their
value instead. Sine, cosine and tangent take degrees. -/

namespace DeskCalculator

inductive Function where
  | sine
  | cosine
  | tangent
  | logarithm
  | squareRoot
deriving DecidableEq, Repr

namespace Function

def all : List Function :=
  [sine, cosine, tangent, logarithm, squareRoot]

def label : Function → String
  | sine => "sin"
  | cosine => "cos"
  | tangent => "tan"
  | logarithm => "log"
  | squareRoot => "sqrt"

/-- The name in stored data, where the base of the logarithm is spelt out. -/
def storedName : Function → String
  | logarithm => "log10"
  | function => function.label

def takesDegrees : Function → Bool
  | sine | cosine | tangent => true
  | logarithm | squareRoot => false

def ofWord? (word : List Char) : Option Function :=
  if word = "sin".toList then some sine
  else if word = "cos".toList then some cosine
  else if word = "tan".toList then some tangent
  else if word = "log".toList ∨ word = "log10".toList then some logarithm
  else if word = "sqrt".toList ∨ word = "√".toList then some squareRoot
  else none

def ofName? (name : List Char) : Option Function :=
  ofWord? (Text.word name)

def unknownMessage (name : List Char) : String :=
  s!"Unknown function: {String.ofList name}"

def radiansPerDegree : Float :=
  Number.ofCode false 0x3F91DF46A2529D39

def radians (degrees : Float) : Float :=
  degrees * radiansPerDegree

def apply (function : Function) (value : Float) : Float :=
  let value := if function.takesDegrees then radians value else value
  match function with
  | sine => value.sin
  | cosine => value.cos
  | tangent => value.tan
  | logarithm => value.log10
  | squareRoot => value.sqrt

example : radiansPerDegree = 3.141592653589793 / 180.0 := by decide +kernel

/-! Functions read the display as a number, not as an expression. -/

/-- The number on a display, with blanks around it ignored. -/
def operand (display : List Char) : Except Expression.Misreading Float :=
  match Number.ofText? (Text.trim display) with
  | some value => .ok value
  | none => .error ⟨0, .malformedNumber display⟩

def applyToDisplay (function : Function) (display : List Char) :
    Except Expression.Misreading (List Char) :=
  (operand display).map fun value => Number.displayText (function.apply value)

end Function

end DeskCalculator
