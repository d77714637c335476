import Reckon.Double.Arithmetic
import Reckon.Double.Integer

/-!
# Operators

What the operators of formulas do with doubles.  Comparisons and logical operators give one
or zero; bitwise operators work on integer parts of 64 bits; no operator fails on any double.
-/

namespace Reckon.Operator

open Double

def binary? : String → Option (Float → Float → Float)
  | "||" => some fun a b => ofTruth (isNonzero a || isNonzero b)
  | "&&" => some fun a b => ofTruth (isNonzero a && isNonzero b)
  | "|" => some bitOr
  | "^" => some bitXor
  | "&" => some bitAnd
  | "==" => some fun a b => ofTruth (a == b)
  | "!=" => some fun a b => ofTruth (!(a == b))
  | "<" => some fun a b => ofTruth (decide (a < b))
  | ">" => some fun a b => ofTruth (decide (b < a))
  | "<=" => some fun a b => ofTruth (decide (a ≤ b))
  | ">=" => some fun a b => ofTruth (decide (b ≤ a))
  | "+" => some fun a b => a + b
  | "-" => some fun a b => a - b
  | "*" => some fun a b => a * b
  | "/" => some fun a b => a / b
  | "%" => some remainder
  | _ => none

def unary? : String → Option (Float → Float)
  | "!" => some fun x => ofTruth (x == zero)
  | "~" => some bitNot
  | _ => none

end Reckon.Operator
