import Reckon.Double.Reading

/-!
# Decimal text of doubles

A double is written with the fewest decimal digits that read back to it, of several such
decimals with the nearest one.  Decimal exponents from -4 to 15 are written positionally and
keep one digit behind the point; all others carry a signed exponent of two digits or more.

The exact value of a finite double has a finite decimal expansion, so its digits are those
of one natural number and the candidates are its leading digits.
-/

namespace Reckon.Double

/-- A decimal: some digits, and the place of the point counted from their start. -/
structure Decimal where
  digits : List Char
  point : Int
  deriving DecidableEq, Repr

namespace Decimal

/-- The numbers that round to a magnitude, in quarter units: from `lower` to `upper`, the
ends included when the significand is even. -/
structure Interval where
  lower : Nat
  upper : Nat
  closed : Bool

/-- The interval around a finite magnitude.  Below a power of two the spacing is halved. -/
def Interval.ofMagnitude (magnitude : Nat) : Interval :=
  let value := 4 * unitsOfMagnitude magnitude
  let spacing := Nat.pow 2 (scaleOfMagnitude magnitude)
  let narrow := magnitude % Nat.pow 2 52 = 0 ∧ Nat.pow 2 53 ≤ magnitude
  { lower := value - (if narrow then 1 else 2) * spacing
    upper := value + 2 * spacing
    closed := magnitude % 2 = 0 }

def Interval.contains (interval : Interval) (value : Nat) : Bool :=
  if interval.closed then
    decide (interval.lower ≤ value) && decide (value ≤ interval.upper)
  else
    decide (interval.lower < value) && decide (value < interval.upper)

/-- The best number with `places` of the digits of `exact` cut off, among the two neighbours
of `exact` that lie in the interval; on a tie the even one. -/
def candidate? (interval : Interval) (exact places : Nat) : Option Nat :=
  let step := Nat.pow 10 places
  let below := exact / step
  let rest := exact % step
  let fits (number : Nat) := interval.contains (4 * (number * step))
  match fits below, fits (below + 1) with
  | true, true =>
      if 2 * rest < step then some below
      else if step < 2 * rest then some (below + 1)
      else some (below + below % 2)
  | true, false => some below
  | false, true => some (below + 1)
  | false, false => none

def withoutTrailingZeros (digits : List Char) : List Char :=
  (digits.reverse.dropWhile (· == '0')).reverse

/-- The shortest decimal for a finite magnitude other than zero.  Cutting off no digit always
gives a candidate, so the search ends with the exact value at the latest. -/
def shortest (magnitude : Nat) : Decimal :=
  -- `2 ^ -1074 = 5 ^ 1074 * 10 ^ -1074`
  let factor := Nat.pow 5 1074
  let exact := unitsOfMagnitude magnitude * factor
  let around := Interval.ofMagnitude magnitude
  let interval : Interval :=
    { around with lower := around.lower * factor, upper := around.upper * factor }
  let length := (Nat.toDigits 10 exact).length
  let found := (List.range length).findSome? fun kept =>
    let places := length - 1 - kept
    (candidate? interval exact places).map fun number => (number, places)
  let (number, places) := found.getD (exact, 0)
  let digits := Nat.toDigits 10 number
  { digits := withoutTrailingZeros digits
    point := (digits.length : Int) + places - 1074 }

def positional (decimal : Decimal) : List Char :=
  let count := decimal.digits.length
  if decimal.point ≤ 0 then
    ['0', '.'] ++ List.replicate (-decimal.point).toNat '0' ++ decimal.digits
  else if (count : Int) ≤ decimal.point then
    decimal.digits ++ List.replicate (decimal.point.toNat - count) '0' ++ ['.', '0']
  else
    decimal.digits.take decimal.point.toNat ++ '.' :: decimal.digits.drop decimal.point.toNat

/-- A signed exponent of at least two digits. -/
def exponentText (exponent : Int) : List Char :=
  let digits := Nat.toDigits 10 exponent.natAbs
  'e' :: (if exponent < 0 then '-' else '+') ::
    (List.replicate (2 - digits.length) '0' ++ digits)

def scientific (decimal : Decimal) : List Char :=
  let significand :=
    match decimal.digits with
    | lead :: second :: rest => lead :: '.' :: second :: rest
    | digits => digits
  significand ++ exponentText (decimal.point - 1)

/-- The text of a decimal, positional for exponents from -4 to 15. -/
def text (decimal : Decimal) : List Char :=
  if -4 < decimal.point ∧ decimal.point ≤ 16 then
    decimal.positional
  else
    decimal.scientific

end Decimal

def toText (x : Float) : String :=
  match read x with
  | .nan => "nan"
  | .infinite negative => if negative then "-inf" else "inf"
  | .finite negative _ =>
      let unsigned :=
        if magnitude x = 0 then ['0', '.', '0'] else (Decimal.shortest (magnitude x)).text
      String.ofList (if negative then '-' :: unsigned else unsigned)

end Reckon.Double
