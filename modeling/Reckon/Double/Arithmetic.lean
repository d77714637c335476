import Reckon.Double.Nearest

/-!
# Arithmetic that never fails

The four basic operations are those of the machine.  `Double.remainder` is the exact
remainder of truncated division: it keeps the sign of the dividend, also for a zero result.
`Double.greater` and `Double.lesser` pass on what is not a number.
-/

namespace Reckon.Double

/-- The remainder of truncated division.  It is a whole number of units, so no rounding
takes place; there is none of an infinite dividend or by a zero divisor. -/
def remainder (a b : Float) : Float :=
  match read a, read b with
  | .finite negative dividend, .finite _ divisor =>
      if divisor = 0 then nan else ofUnits negative (dividend % divisor)
  | .finite _ _, .infinite _ => a
  | _, _ => nan

/-- The greater of two doubles, the first one if they are equal. -/
def greater (a b : Float) : Float :=
  if a.isNaN || b.isNaN then nan else if a < b then b else a

/-- The lesser of two doubles, the first one if they are equal. -/
def lesser (a b : Float) : Float :=
  if a.isNaN || b.isNaN then nan else if b < a then b else a

/-- Whether the absolute value is above the bound; never so for what is not a number. -/
def exceeds (value bound : Float) : Bool :=
  decide (bound < value.abs)

/-- Whether a double counts as true inside a formula: all but the two zeros do. -/
def isNonzero (x : Float) : Bool :=
  !(x == zero)

/-- The number of degrees in one radian, rounded. -/
def degreesPerRadian : Float := .ofBits 0x404CA5DC1A63C1F8

/-- The number of radians in one degree, rounded. -/
def radiansPerDegree : Float := .ofBits 0x3F91DF46A2529D39

end Reckon.Double
