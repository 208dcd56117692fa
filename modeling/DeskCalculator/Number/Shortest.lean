import DeskCalculator.Number.Decimal

/-! Many decimals read back as one double. The shortest decimal of a finite magnitude
has the fewest digits among them, and of those with that many digits it is the
nearest to the exact value; of two equally near it is the larger.

The search runs over grids of decimals, from the coarsest, on which the value has
one digit, to the finest, on which it is exact. On each grid only the two
neighbours of the value are tried: rounding is monotone, so if any point of the
grid reads back, one of the two does. -/

namespace DeskCalculator.Number

/-- The exact value of a finite magnitude, counted in steps of `10 ^ -1074`. -/
def exactDigits (code : Nat) : Nat :=
  unitsOfCode code * Nat.pow 5 1074

/-- The decimal `count` steps above zero on the grid with steps of
`10 ^ (grid - 1074)`. -/
def onGrid (grid count : Nat) : Decimal :=
  ⟨count, (grid : Int) - 1074⟩

/-- The nearer neighbour of the value on a grid if it reads back, else the other
one if that does. -/
def neighbourOnGrid? (code grid : Nat) : Option Decimal :=
  let below := exactDigits code / Nat.pow 10 grid
  let neighbours :=
    if 2 * (exactDigits code % Nat.pow 10 grid) < Nat.pow 10 grid then [below, below + 1]
    else [below + 1, below]
  (neighbours.map (onGrid grid)).find? fun decimal => decimal.code == code

/-- The first grid with a neighbour that reads back, from `grid` downward. -/
def coarsestFrom (code : Nat) : (grid : Nat) → Decimal
  | 0 => onGrid 0 (exactDigits code)
  | grid + 1 => (neighbourOnGrid? code (grid + 1)).getD (coarsestFrom code grid)

def shortestDecimal (code : Nat) : Decimal :=
  (coarsestFrom code ((Text.digitsOfNatural (exactDigits code)).length - 1)).stripped

example : shortestDecimal (codeOf (0.1 + 0.2)) = ⟨30000000000000004, -17⟩ := by
  decide +kernel

end DeskCalculator.Number
