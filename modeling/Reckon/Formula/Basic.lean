import Reckon.Fault

/-!
# Formulas

A formula is a tree.  Operators and functions stand in it by their spelling, and what they
mean is looked up when the tree is evaluated.  Trees need not come from a text: one that is
put together by hand may hold an operator that does not exist, or a link of a chain or a plain
value in place of a formula, or something without an operand in place of a link.
-/

namespace Reckon

inductive PlainKind where
  | null
  | truth
  | integer
  | double
  | text
  | list
  | mapping
  deriving DecidableEq, Repr

def PlainKind.label : PlainKind → String
  | null => "NoneType"
  | truth => "bool"
  | integer => "int"
  | double => "float"
  | text => "str"
  | list => "list"
  | mapping => "dict"

/-- A formula, or what stands in place of one. -/
inductive Formula where
  | number (value : Float)
  | argument (letters : String)
  | call (name : String) (inputs : List Formula)
  | prefixed (operator : String) (operand : Formula)
  /-- Operands of one level, folded from the left: each link holds an operator and the
  operand behind it. -/
  | chain (level : String) (first : Formula) (links : List (String × Formula))
  | group (inside : Formula)
  /-- A link outside of a chain. -/
  | link (operator : String) (operand : Formula)
  /-- The operand of something that stands among the links of a chain and has none. -/
  | noOperand (owner : String)
  | plain (kind : PlainKind)

/-- The name of what stands in a tree in faults and problems. -/
def Formula.label : Formula → String
  | number _ => "NumberNode"
  | argument _ => "VariableNode"
  | call _ _ => "FunctionCallNode"
  | prefixed _ _ => "UnaryOpNode"
  | chain _ _ _ => "OperatorChainNode"
  | group _ => "GroupNode"
  | link _ _ => "ChainLink"
  | noOperand owner => owner
  | plain kind => kind.label

end Reckon
