import Reckon.Argument
import Reckon.Formula.Basic
import Reckon.Formula.Operator
import Reckon.Function.Table

/-!
# Values of formulas

A formula is evaluated from left to right, without skipping any part of it.  The inputs of a
call come before the look-up of its function, the operand of a link before its operator, and
a prefix operator before its operand; the first fault met on this way is the answer.
-/

namespace Reckon.Formula

mutual

/-- The value of a formula for some arguments and functions. -/
def eval (functions : Function.Table) (arguments : List Float) : Formula → Except Fault Float
  | number value => .ok value
  | argument letters => Argument.lookup arguments letters
  | call name inputs => do
      let values ← evalAll functions arguments inputs
      functions.apply name values
  | prefixed operator operand =>
      match Operator.unary? operator with
      | none => .error (.unknownOperator operator)
      | some operation => do
          let value ← eval functions arguments operand
          return operation value
  | chain _ first links => do
      let value ← eval functions arguments first
      evalLinks functions arguments value links
  | group inside => eval functions arguments inside
  | link operator operand => .error (.unknownNode (label (link operator operand)))
  | noOperand owner => .error (.noOperand owner)
  | plain kind => .error (.unknownNode kind.label)

/-- The values of some formulas, from left to right. -/
def evalAll (functions : Function.Table) (arguments : List Float) :
    List Formula → Except Fault (List Float)
  | [] => .ok []
  | formula :: formulas => do
      let value ← eval functions arguments formula
      let values ← evalAll functions arguments formulas
      return value :: values

/-- Fold the links of a chain into the value of what stands before them. -/
def evalLinks (functions : Function.Table) (arguments : List Float) (value : Float) :
    List (String × Formula) → Except Fault Float
  | [] => .ok value
  | (operator, operand) :: links => do
      let right ← eval functions arguments operand
      match Operator.binary? operator with
      | none => throw (.unknownOperator operator)
      | some operation => evalLinks functions arguments (operation value right) links

end

end Reckon.Formula
