import Reckon.Double.Nearest
import Reckon.Text.DecimalDigit

/-!
# Values of number literals

A literal stands for the double nearest to the rational number that its digits spell, in
whichever scripts they are written and however many there are.
-/

namespace Reckon.Formula

/-- The digits of a literal in front of its point and behind it. -/
def literalParts (word : List Char) : List Char × List Char :=
  (word.takeWhile (· ≠ '.'), (word.dropWhile (· ≠ '.')).drop 1)

/-- The value of a literal of any length.  That hosts may refuse to read more than about `10 ^ 9`
digits, although nothing says so, is left aside. -/
def literalValue (word : List Char) : Float :=
  let (whole, fraction) := literalParts word
  Double.nearest false (Text.digitsValue (whole ++ fraction)) (Nat.pow 10 fraction.length)

end Reckon.Formula
