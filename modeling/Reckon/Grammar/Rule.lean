import Reckon.Grammar.Terminal

/-!
# The rules of the grammar

A formula is a chain of operands at each of nine levels, from the loosest operators to the
tightest; below them stand prefixes and the closed forms: calls, numbers, argument names and
groups.  Each rule is given by one parsing expression.  `Peg.nested` marks what stands behind
a prefix operator or an opening parenthesis, and all recursion of the grammar passes through
it: `Rule.height_body_lt` says that every other rule refers to lower rules only.
-/

namespace Reckon.Grammar

/-- The levels of binary operators, from the loosest to the tightest. -/
inductive Level where
  | logicalOr
  | logicalAnd
  | bitwiseOr
  | bitwiseXor
  | bitwiseAnd
  | equality
  | relational
  | additive
  | multiplicative
  deriving DecidableEq, Hashable, Repr

/-- The syntactic categories. -/
inductive Rule where
  | formula
  | chain (level : Level)
  | unary
  | atom
  | binaryCall
  | unaryCall
  | group
  deriving DecidableEq, Hashable, Repr

inductive Peg where
  | terminal (kind : Terminal)
  | rule (name : Rule)
  | sequence (first second : Peg)
  /-- The second alternative counts only where the first one fails. -/
  | choice (first second : Peg)
  /-- As many repetitions as there are, possibly none. -/
  | many (repeated : Peg)
  /-- The inside of a prefix, a group or a call. -/
  | nested (inside : Peg)
  deriving DecidableEq, Hashable, Repr

namespace Level

def label : Level → String
  | logicalOr => "logical_or"
  | logicalAnd => "logical_and"
  | bitwiseOr => "bitwise_or"
  | bitwiseXor => "bitwise_xor"
  | bitwiseAnd => "bitwise_and"
  | equality => "equality"
  | relational => "relational"
  | additive => "additive"
  | multiplicative => "multiplicative"

def all : List Level :=
  [logicalOr, logicalAnd, bitwiseOr, bitwiseXor, bitwiseAnd, equality, relational, additive,
    multiplicative]

def ofLabel? (name : String) : Option Level :=
  all.find? (·.label = name)

/-- The operators that link the operands of a level. -/
def operator : Level → Terminal
  | logicalOr => .orOperator
  | logicalAnd => .andOperator
  | bitwiseOr => .bitOrOperator
  | bitwiseXor => .bitXorOperator
  | bitwiseAnd => .bitAndOperator
  | equality => .equalityOperator
  | relational => .relationOperator
  | additive => .sumOperator
  | multiplicative => .productOperator

/-- The rule for the operands of a level. -/
def operand : Level → Rule
  | logicalOr => .chain logicalAnd
  | logicalAnd => .chain bitwiseOr
  | bitwiseOr => .chain bitwiseXor
  | bitwiseXor => .chain bitwiseAnd
  | bitwiseAnd => .chain equality
  | equality => .chain relational
  | relational => .chain additive
  | additive => .chain multiplicative
  | multiplicative => .unary

/-- The number of tighter levels. -/
def tighter : Level → Nat
  | logicalOr => 8
  | logicalAnd => 7
  | bitwiseOr => 6
  | bitwiseXor => 5
  | bitwiseAnd => 4
  | equality => 3
  | relational => 2
  | additive => 1
  | multiplicative => 0

end Level

namespace Rule

def label : Rule → String
  | formula => "mathex"
  | chain level => level.label
  | unary => "unary"
  | atom => "atom"
  | binaryCall => "call2"
  | unaryCall => "call1"
  | group => "group"

/-- A whole formula inside another one. -/
def inner : Peg :=
  .rule (.chain .logicalOr)

/-- The parsing expression of a rule. -/
def body : Rule → Peg
  | formula => .sequence inner (.terminal .endOfText)
  | chain level =>
      .sequence (.rule level.operand)
        (.many (.sequence (.terminal level.operator) (.rule level.operand)))
  | unary =>
      .choice (.sequence (.terminal .prefixOperator) (.nested (.rule unary))) (.rule atom)
  | atom =>
      .choice (.rule binaryCall) <| .choice (.rule unaryCall) <|
        .choice (.terminal .number) <| .choice (.terminal .argument) (.rule group)
  | binaryCall =>
      .sequence (.terminal .name) <| .sequence (.terminal .openParenthesis) <| .nested <|
        .sequence inner <| .sequence (.terminal .comma) <|
          .sequence inner (.terminal .closeParenthesis)
  | unaryCall =>
      .sequence (.terminal .name) <| .sequence (.terminal .openParenthesis) <| .nested <|
        .sequence inner (.terminal .closeParenthesis)
  | group =>
      .sequence (.terminal .openParenthesis) <| .nested <|
        .sequence inner (.terminal .closeParenthesis)

/-- How deep rules refer to rules before something nested starts. -/
def height : Rule → Nat
  | formula => 48
  | chain level => 14 + 4 * level.tighter
  | unary => 10
  | atom => 8
  | binaryCall | unaryCall | group => 3

end Rule

/-- How deep an expression refers to rules before something nested starts. -/
def Peg.height : Peg → Nat
  | terminal _ => 0
  | rule name => name.height
  | sequence first second => max first.height second.height + 1
  | choice first second => max first.height second.height + 1
  | many repeated => repeated.height + 1
  | nested _ => 0

theorem Rule.height_body_lt (name : Rule) : name.body.height < name.height := by
  cases name with
  | chain level => cases level <;> decide
  | _ => decide

end Reckon.Grammar
