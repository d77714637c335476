import Reckon.Double.Reading

/-!
# Rounding a quotient to the nearest double

`Double.nearest` is the one place where an exact value becomes a double: the nearest one,
ties to the even neighbour, subnormal results rounded at their own spacing, and infinity
from half a spacing above the largest finite double.
-/

namespace Reckon.Double

/-- The quotient rounded to the nearest whole number, ties to the even one. -/
def divRoundEven (numerator denominator : Nat) : Nat :=
  let quotient := numerator / denominator
  let rest := numerator % denominator
  if 2 * rest < denominator then
    quotient
  else if denominator < 2 * rest then
    quotient + 1
  else
    quotient + quotient % 2

/-- The magnitude of the double nearest to a quotient.  The spacing of the doubles around
the quotient is the power of two that leaves 53 bits in front of the point, or one unit. -/
def nearestMagnitude (numerator denominator : Nat) : Nat :=
  let units := numerator * unitsPerOne
  let scale := (units / denominator).log2 - 52
  let rounded := divRoundEven units (denominator * Nat.pow 2 scale)
  min (scale * Nat.pow 2 52 + rounded) infinityMagnitude

def nearest (negative : Bool) (numerator denominator : Nat) : Float :=
  ofMagnitude negative (nearestMagnitude numerator denominator)

/-- The double nearest to an integer; zero is positive. -/
def ofInt (value : Int) : Float :=
  nearest (decide (value < 0)) value.natAbs 1

def ofUnits (negative : Bool) (units : Nat) : Float :=
  nearest negative units unitsPerOne

end Reckon.Double
