import Reckon.Double.Nearest

/-!
# Integer parts of doubles

* `Double.truncate` rounds toward zero and saturates at the bounds of 64-bit integers;
* `Double.bitAnd`, `bitOr`, `bitXor` and `bitNot` work on truncated operands in two's
  complement, and give the double nearest to the resulting integer;
* `Double.floor` and `Double.ceil` are exact; a zero result is positive zero.
-/

namespace Reckon.Double

abbrev leastWord : Int := -(Nat.pow 2 63 : Nat)

abbrev greatestWord : Int := (Nat.pow 2 63 : Nat) - 1

def signed (negative : Bool) (absolute : Nat) : Int :=
  if negative then -absolute else absolute

/-- The integer part toward zero, saturated to 64 bits; zero for what is not a number. -/
def truncate (x : Float) : Int :=
  match read x with
  | .nan => 0
  | .infinite negative => if negative then leastWord else greatestWord
  | .finite negative units =>
      max leastWord (min greatestWord (signed negative (units / unitsPerOne)))

/-- A bitwise operation on the 64-bit words of two integer parts. -/
def bitwise (operation : BitVec 64 → BitVec 64 → BitVec 64) (a b : Float) : Float :=
  ofInt (operation (.ofInt 64 (truncate a)) (.ofInt 64 (truncate b))).toInt

def bitAnd : Float → Float → Float :=
  bitwise (· &&& ·)

def bitOr : Float → Float → Float :=
  bitwise (· ||| ·)

def bitXor : Float → Float → Float :=
  bitwise (· ^^^ ·)

def bitNot (x : Float) : Float :=
  ofInt (~~~ BitVec.ofInt 64 (truncate x)).toInt

/-- The greatest integer that is not above the value; infinities and NaN stay. -/
def floor (x : Float) : Float :=
  match read x with
  | .finite negative units => ofInt ((signed negative units).fdiv unitsPerOne)
  | _ => x

/-- The least integer that is not below the value; infinities and NaN stay. -/
def ceil (x : Float) : Float :=
  match read x with
  | .finite negative units => ofInt (-(-(signed negative units)).fdiv unitsPerOne)
  | _ => x

end Reckon.Double
