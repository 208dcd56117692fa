/-! Leave the sign bit of a double aside and number the remaining patterns in
ascending order: `0` is zero, `infinityCode` is infinity, and every code above it
is a not-a-number. Every finite magnitude is a whole number of *units* of
`2 ^ -1074`, so a fraction is rounded to a double by arithmetic on natural
numbers alone. Consecutive codes are consecutive magnitudes, which makes a carry
out of the significand, and the step from subnormal to normal, a plain addition. -/

namespace DeskCalculator.Number

/-- How many codes share a power of two. -/
def binade : Nat := Nat.pow 2 52

def infinityCode : Nat := 0x7FF * binade

/-- How many units make one. -/
def unitsOfOne : Nat := Nat.pow 2 1074

/-- How many units the finite magnitude with this code holds. -/
def unitsOfCode (code : Nat) : Nat :=
  if code < binade then code
  else (binade + code % binade) * Nat.pow 2 (code / binade - 1)

/-- The integer nearest to a quotient, of two equally near the even one. -/
def nearestQuotient (numerator denominator : Nat) : Nat :=
  let quotient := numerator / denominator
  let remainder := numerator % denominator
  if 2 * remainder < denominator then quotient
  else if denominator < 2 * remainder then quotient + 1
  else quotient + quotient % 2

/-- The code of the magnitude nearest to a fraction, of two equally near the one
with the even code. What lies half a step beyond the largest finite magnitude, or
further, becomes infinity. -/
def nearestCode (numerator denominator : Nat) : Nat :=
  let units := numerator * unitsOfOne
  let spacing := (units / denominator).log2 - 52
  min infinityCode (spacing * binade + nearestQuotient units (denominator * Nat.pow 2 spacing))

def productCode (left right : Nat) : Nat :=
  nearestCode (unitsOfCode left * unitsOfCode right) (unitsOfOne * unitsOfOne)

example : nearestCode 1 10 = 0x3FB999999999999A := by decide +kernel

/-! A double is its sign bit and the code of its magnitude. -/

def signCode : Nat := Nat.pow 2 63

def isNegative (value : Float) : Bool :=
  signCode ≤ value.toBits.toNat

def codeOf (value : Float) : Nat :=
  value.toBits.toNat % signCode

def ofCode (negative : Bool) (code : Nat) : Float :=
  Float.ofBits (UInt64.ofNat ((if negative then signCode else 0) + code))

def isNotANumber (value : Float) : Bool :=
  infinityCode < codeOf value

def notANumber : Float :=
  ofCode false (infinityCode + binade / 2)

def infinity (negative : Bool) : Float :=
  ofCode negative infinityCode

end DeskCalculator.Number
