import Reckon.Formula.Basic
import Reckon.Formula.Literal
import Reckon.Grammar.ParseTree

/-!
# Formulas of parse trees

A chain without links is its only operand; every prefix, call and group is one construct and
may stand inside at most `limit` others.  A construct that stands too deep is a fault before
anything inside it is looked at.
-/

namespace Reckon.Formula

open Grammar (ParseTree)

/-- Go one construct deeper, if the limit allows it. -/
def deepen (limit depth : Int) : Except Fault Int :=
  if limit < depth + 1 then .error (.tooDeep (depth + 1) limit) else .ok (depth + 1)

mutual

/-- The formula of a parse tree that stands inside `depth` constructs. -/
def build (limit depth : Int) : ParseTree → Except Fault Formula
  | .token .number word => .ok (number (literalValue word))
  | .token .argument word => .ok (argument (String.ofList word))
  | .node (.chain level) (first :: links) => do
      let first ← build limit depth first
      let links ← buildLinks limit depth links
      if links.isEmpty then
        return first
      else
        return chain level.label first links
  | .node .unary [.token .prefixOperator word, operand] => do
      let inside ← deepen limit depth
      let operand ← build limit inside operand
      return prefixed (String.ofList word) operand
  | .node .unary [only] => build limit depth only
  | .node .atom [only] => build limit depth only
  | .node .formula [only, .token .endOfText _] => build limit depth only
  | .node .unaryCall [.token .name word, input] => do
      let inside ← deepen limit depth
      let input ← build limit inside input
      return call (String.ofList word) [input]
  | .node .binaryCall [.token .name word, first, second] => do
      let inside ← deepen limit depth
      let first ← build limit inside first
      let second ← build limit inside second
      return call (String.ofList word) [first, second]
  | .node .group [only] => do
      let inside ← deepen limit depth
      return group (← build limit inside only)
  | other => .error (.unknownNode other.label)

/-- The links of a chain: operators and operands in turn. -/
def buildLinks (limit depth : Int) :
    List ParseTree → Except Fault (List (String × Formula))
  | .token _ word :: operand :: links => do
      let operand ← build limit depth operand
      let links ← buildLinks limit depth links
      return (String.ofList word, operand) :: links
  | _ => .ok []

end

end Reckon.Formula
