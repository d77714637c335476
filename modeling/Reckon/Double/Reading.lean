/-!
# Exact readings of doubles

Every finite double is a whole multiple of the least positive one, `2 ^ -1074`.  A reading
counts those units, so exact arithmetic on doubles is arithmetic on natural numbers and no
exponent has to be carried along.

* `Double.read` takes a double apart;
* `Double.ofMagnitude` puts one together from a sign and the 63 bits below it;
* `Double.unitsOfMagnitude` is the number of units that such a magnitude stands for.
-/

namespace Reckon.Double

/-- The number of units in one: the unit is the least positive double. -/
abbrev unitsPerOne : Nat := Nat.pow 2 1074

/-- The magnitude bits of infinity: the finite magnitudes are the smaller ones. -/
abbrev infinityMagnitude : Nat := 0x7FF0000000000000

inductive Reading where
  | nan
  | infinite (negative : Bool)
  /-- A whole number of units with a sign; both zeros have no units. -/
  | finite (negative : Bool) (units : Nat)
  deriving DecidableEq, Repr

/-- The power of two by which the significand of a finite magnitude is scaled. -/
def scaleOfMagnitude (magnitude : Nat) : Nat :=
  magnitude / Nat.pow 2 52 - 1

/-- The significand of a finite magnitude, with its leading bit unless it is subnormal. -/
def significandOfMagnitude (magnitude : Nat) : Nat :=
  if magnitude < Nat.pow 2 52 then magnitude else Nat.pow 2 52 + magnitude % Nat.pow 2 52

/-- The number of units that a finite magnitude stands for. -/
def unitsOfMagnitude (magnitude : Nat) : Nat :=
  significandOfMagnitude magnitude * Nat.pow 2 (scaleOfMagnitude magnitude)

/-- The bits of a double below its sign. -/
def magnitude (x : Float) : Nat :=
  x.toBits.toNat % Nat.pow 2 63

def isNegative (x : Float) : Bool :=
  decide (Nat.pow 2 63 ≤ x.toBits.toNat)

def isFinite (x : Float) : Bool :=
  magnitude x < infinityMagnitude

/-- The exact value of a double. -/
def read (x : Float) : Reading :=
  if infinityMagnitude < magnitude x then
    .nan
  else if magnitude x = infinityMagnitude then
    .infinite (isNegative x)
  else
    .finite (isNegative x) (unitsOfMagnitude (magnitude x))

/-- The double with the given sign and the given bits below it. -/
def ofMagnitude (negative : Bool) (magnitude : Nat) : Float :=
  .ofBits (.ofNat (if negative then Nat.pow 2 63 + magnitude else magnitude))

def nan : Float := .ofBits 0x7FF8000000000000

def infinity : Float := .ofBits 0x7FF0000000000000

def zero : Float := .ofBits 0

def one : Float := .ofBits 0x3FF0000000000000

/-- One for a true statement and zero for a false one. -/
def ofTruth (holds : Bool) : Float :=
  if holds then one else zero

end Reckon.Double
