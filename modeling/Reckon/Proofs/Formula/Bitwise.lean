import Reckon.Proofs.Double.Bitwise
import Reckon.Proofs.Formula.Faults

/-!
# Bitwise formulas as integers

A tree of bitwise operators is evaluated in doubles: every result inside it becomes a double and is
truncated again.  As long as the leaves are truncated to integers of 54 bits, nothing is lost on
the way (`BitTree.exists_carries`): the value is the integer that the same tree has over unbounded
integers in two's complement.  So the laws of these integers hold of the values
(`Formula.eval_bitwise`).
-/

namespace Reckon

open Double

/-! ## Trees -/

def BitOperator.symbol : BitOperator → String
  | and => "&"
  | or => "|"
  | xor => "^"

theorem BitOperator.binary?_symbol (operator : BitOperator) :
    Operator.binary? operator.symbol = some operator.onDoubles := by
  cases operator with
  | and => rfl
  | or => rfl
  | xor => rfl

/-- Bitwise operators and groups over formulas of any kind. -/
inductive BitTree where
  | leaf (formula : Formula)
  | group (inside : BitTree)
  | complement (operand : BitTree)
  | chain (level : String) (first : BitTree) (links : List (BitOperator × BitTree))

namespace BitTree

mutual

/-- The formula that a tree stands for. -/
def formula : BitTree → Formula
  | leaf formula => formula
  | group inside => .group inside.formula
  | complement operand => .prefixed "~" operand.formula
  | chain level first links => .chain level first.formula (formulaLinks links)

def formulaLinks : List (BitOperator × BitTree) → List (String × Formula)
  | [] => []
  | (operator, operand) :: links => (operator.symbol, operand.formula) :: formulaLinks links

end

mutual

def leaves : BitTree → List Formula
  | leaf formula => [formula]
  | group inside => inside.leaves
  | complement operand => operand.leaves
  | chain _ first links => first.leaves ++ leavesLinks links

def leavesLinks : List (BitOperator × BitTree) → List Formula
  | [] => []
  | (_, operand) :: links => operand.leaves ++ leavesLinks links

end

mutual

/-- The value of a tree over unbounded integers in two's complement. -/
def integer (ofLeaf : Formula → Int) : BitTree → Int
  | leaf formula => ofLeaf formula
  | group inside => inside.integer ofLeaf
  | complement operand => Int.lnot (operand.integer ofLeaf)
  | chain _ first links => integerLinks ofLeaf (first.integer ofLeaf) links

def integerLinks (ofLeaf : Formula → Int) (left : Int) : List (BitOperator × BitTree) → Int
  | [] => left
  | (operator, operand) :: links =>
      integerLinks ofLeaf (operator.onIntegers left (operand.integer ofLeaf)) links

end

/-- A bitwise operator stands at the root of a tree, below its groups. -/
def isOperation : BitTree → Bool
  | leaf _ => false
  | group inside => inside.isOperation
  | complement _ => true
  | chain _ first links => first.isOperation || !links.isEmpty

end BitTree

/-! ## Evaluation -/

section Evaluation

variable (functions : Function.Table) (arguments : List Float)

/-- The integer that the value of a formula is truncated to; zero where there is no value. -/
def Formula.truncated (formula : Formula) : Int :=
  match formula.eval functions arguments with
  | .ok value => truncate value
  | .error _ => 0

/-- The formula has a value, which is truncated to 54 bits. -/
def Formula.IsShort (formula : Formula) : Prop :=
  ∃ x, formula.eval functions arguments = .ok x ∧ IsExact (truncate x)

variable {functions arguments}

theorem Formula.eval_complement {operand : Formula} {x : Float}
    (evaluated : operand.eval functions arguments = .ok x) :
    (Formula.prefixed "~" operand).eval functions arguments = .ok (bitNot x) := by
  rw [eval, evaluated]
  rfl

namespace BitTree

mutual

-- The induction is on the tree.  An operand counts by what it is truncated to, so that a leaf may
-- be any double; only what an operator gave is known to be the double of its integer.

/-- Nothing is lost in a tree with short leaves. -/
theorem exists_carries : (tree : BitTree) →
    (∀ leaf ∈ tree.leaves, leaf.IsShort functions arguments) →
      ∃ x, tree.formula.eval functions arguments = .ok x ∧
        Carries (tree.integer (Formula.truncated functions arguments)) tree.isOperation x
  | leaf formula, short => by
      obtain ⟨x, evaluated, exact⟩ := short formula (List.mem_singleton_self formula)
      have truncated : formula.truncated functions arguments = truncate x := by
        rw [Formula.truncated, evaluated]
      refine ⟨x, evaluated, ?_⟩
      rw [integer, truncated]
      exact ⟨exact, rfl, nofun⟩
  | group inside, short => by
      rw [formula, Formula.eval]
      exact exists_carries inside short
  | complement operand, short => by
      obtain ⟨x, evaluated, carries⟩ := exists_carries operand short
      exact ⟨bitNot x, Formula.eval_complement evaluated, carries.bitNot⟩
  | chain level first links, short => by
      rw [leaves, List.forall_mem_append] at short
      obtain ⟨x, evaluated, carries⟩ := exists_carries first short.1
      rw [formula, Formula.eval, evaluated]
      exact exists_carriesLinks carries links short.2

theorem exists_carriesLinks {left : Int} {operated : Bool} {x : Float}
    (carries : Carries left operated x) : (links : List (BitOperator × BitTree)) →
      (∀ leaf ∈ leavesLinks links, leaf.IsShort functions arguments) →
        ∃ y, Formula.evalLinks functions arguments x (formulaLinks links) = .ok y ∧
          Carries (integerLinks (Formula.truncated functions arguments) left links)
            (operated || !links.isEmpty) y
  | [], _ => by
      refine ⟨x, rfl, ?_⟩
      rw [integerLinks, List.isEmpty_nil, Bool.not_true, Bool.or_false]
      exact carries
  | (operator, operand) :: links, short => by
      rw [leavesLinks, List.forall_mem_append] at short
      obtain ⟨y, evaluated, carries'⟩ := exists_carries operand short.1
      rw [formulaLinks, Formula.evalLinks_cons operator.binary?_symbol evaluated, integerLinks,
        List.isEmpty_cons, Bool.not_false, Bool.or_true]
      exact exists_carriesLinks (carries.onDoubles operator carries') links short.2

end

/-- All leaves of a tree have values that are truncated to 54 bits. -/
def IsShort (functions : Function.Table) (arguments : List Float) (tree : BitTree) : Prop :=
  ∀ leaf ∈ tree.leaves, leaf.IsShort functions arguments

/-- An operator between two trees. -/
def both (level : String) (left : BitTree) (operator : BitOperator) (right : BitTree) : BitTree :=
  chain level left [(operator, right)]

theorem isShort_group {inside : BitTree} (short : inside.IsShort functions arguments) :
    (group inside).IsShort functions arguments :=
  short

theorem isShort_complement {operand : BitTree} (short : operand.IsShort functions arguments) :
    (complement operand).IsShort functions arguments :=
  short

theorem isShort_both {level : String} {operator : BitOperator} {left right : BitTree}
    (short : left.IsShort functions arguments) (short' : right.IsShort functions arguments) :
    (both level left operator right).IsShort functions arguments := by
  rw [IsShort, both, leaves, leavesLinks, leavesLinks, List.append_nil, List.forall_mem_append]
  exact ⟨short, short'⟩

theorem isOperation_both (level : String) (operator : BitOperator) (left right : BitTree) :
    (both level left operator right).isOperation :=
  Bool.or_true _

/-- Two trees have values, and the values are the same. -/
def Agree (functions : Function.Table) (arguments : List Float) (first second : BitTree) : Prop :=
  ∃ z, first.formula.eval functions arguments = .ok z ∧
    second.formula.eval functions arguments = .ok z

/-- Trees with the same integer agree, the sign of a zero included. -/
theorem agree_of_integer {first second : BitTree}
    (short : first.IsShort functions arguments) (short' : second.IsShort functions arguments)
    (operation : first.isOperation) (operation' : second.isOperation)
    (same : first.integer (Formula.truncated functions arguments) =
      second.integer (Formula.truncated functions arguments)) :
    Agree functions arguments first second := by
  obtain ⟨x, evaluated, carries⟩ := exists_carries first short
  obtain ⟨y, evaluated', carries'⟩ := exists_carries second short'
  refine ⟨x, evaluated, ?_⟩
  rw [evaluated', carries.eq_ofInt operation, carries'.eq_ofInt operation', same]

theorem integer_both (ofLeaf : Formula → Int) (level : String) (operator : BitOperator)
    (left right : BitTree) :
    (both level left operator right).integer ofLeaf =
      operator.onIntegers (left.integer ofLeaf) (right.integer ofLeaf) := by
  rw [both, integer, integerLinks, integerLinks]

section Laws

variable {first second third : BitTree}

/-- Both laws hold of the values, not only of the integers that are carried. -/
theorem agree_deMorgan (level level' : String) (short : first.IsShort functions arguments)
    (short' : second.IsShort functions arguments) :
    Agree functions arguments (complement (group (both level first .and second)))
        (both level' (complement first) .or (complement second)) ∧
      Agree functions arguments (complement (group (both level first .or second)))
        (both level' (complement first) .and (complement second)) := by
  constructor
  · apply agree_of_integer (isShort_complement (isShort_group (isShort_both short short')))
      (isShort_both (isShort_complement short) (isShort_complement short')) rfl
      (isOperation_both level' .or _ _)
    rw [integer, integer, integer_both, integer_both, integer, integer, BitOperator.lnot_and]
  · apply agree_of_integer (isShort_complement (isShort_group (isShort_both short short')))
      (isShort_both (isShort_complement short) (isShort_complement short')) rfl
      (isOperation_both level' .and _ _)
    rw [integer, integer, integer_both, integer_both, integer, integer, BitOperator.lnot_or]

/-- The operand has to be an operation: a leaf may have a fraction. -/
theorem agree_complement (short : first.IsShort functions arguments)
    (operation : first.isOperation) :
    Agree functions arguments (complement (complement first)) first := by
  apply agree_of_integer (isShort_complement (isShort_complement short)) short rfl operation
  rw [integer, integer, lnot_lnot]

/-- Brackets do not matter between equal operators, as no step is rounded. -/
theorem agree_assoc (level : String) (operator : BitOperator)
    (short : first.IsShort functions arguments) (short' : second.IsShort functions arguments)
    (short'' : third.IsShort functions arguments) :
    Agree functions arguments
      (both level (group (both level first operator second)) operator third)
      (both level first operator (group (both level second operator third))) := by
  apply agree_of_integer (isShort_both (isShort_group (isShort_both short short')) short'')
    (isShort_both short (isShort_group (isShort_both short' short'')))
    (isOperation_both level operator _ _) (isOperation_both level operator _ _)
  rw [integer_both, integer, integer_both, integer_both, integer, integer_both,
    BitOperator.onIntegers_assoc]

end Laws

end BitTree

/-- Every bitwise operator gives the double nearest to the operation on the truncated integers of
its operands.  A tree of bitwise operators with short leaves has the integer as its value that the
tree has over unbounded integers, and nothing is rounded; so the laws of De Morgan, of the double
complement and of associativity hold for values. -/
theorem Formula.eval_bitwise (functions : Function.Table) (arguments : List Float) :
    (∀ (operator : BitOperator) (level : String) (first second : Formula) (x y : Float),
      first.eval functions arguments = .ok x → second.eval functions arguments = .ok y →
        ∃ z, (chain level first [(operator.symbol, second)]).eval functions arguments = .ok z ∧
          IsNearest (operator.onIntegers (truncate x) (truncate y)) z) ∧
    (∀ (operand : Formula) (x : Float), operand.eval functions arguments = .ok x →
      ∃ z, (prefixed "~" operand).eval functions arguments = .ok z ∧
        IsNearest (Int.lnot (truncate x)) z) ∧
    (∀ tree : BitTree, tree.IsShort functions arguments → tree.isOperation →
      ∃ z, tree.formula.eval functions arguments = .ok z ∧
        IsNearest (tree.integer (truncated functions arguments)) z ∧
        value z = tree.integer (truncated functions arguments)) ∧
    ∀ (level level' : String) (first second third : BitTree),
      first.IsShort functions arguments → second.IsShort functions arguments →
        third.IsShort functions arguments →
          BitTree.Agree functions arguments (.complement (.group (.both level first .and second)))
            (.both level' (.complement first) .or (.complement second)) ∧
          BitTree.Agree functions arguments (.complement (.group (.both level first .or second)))
            (.both level' (.complement first) .and (.complement second)) ∧
          (first.isOperation →
            BitTree.Agree functions arguments (.complement (.complement first)) first) ∧
          ∀ operator : BitOperator, BitTree.Agree functions arguments
            (.both level (.group (.both level first operator second)) operator third)
            (.both level first operator (.group (.both level second operator third))) := by
  refine ⟨?_, ?_, ?_, ?_⟩
  · intro operator level first second x y left right
    refine ⟨operator.onDoubles x y, ?_, isNearest_onDoubles operator x y⟩
    rw [eval, left]
    exact (evalLinks_cons operator.binary?_symbol right x []).trans rfl
  · intro operand x evaluated
    exact ⟨bitNot x, eval_complement evaluated, isNearest_bitNot x⟩
  · intro tree short operation
    obtain ⟨z, evaluated, carries⟩ := BitTree.exists_carries tree short
    refine ⟨z, evaluated, ?_⟩
    rw [carries.eq_ofInt operation]
    exact carries.exact.value_ofInt
  · intro level level' first second third short short' short''
    obtain ⟨conjunction, disjunction⟩ := BitTree.agree_deMorgan level level' short short'
    refine ⟨conjunction, disjunction, BitTree.agree_complement short, ?_⟩
    intro operator
    exact BitTree.agree_assoc level operator short short' short''

end Evaluation

namespace Formula

/-- The double next to -7.9. -/
def aboveMinusEight : Float := .ofBits 0xC01F99999999999A

/-- The greatest integer of 54 bits. -/
def greatestShort : Float := .ofBits 0x433FFFFFFFFFFFFF

def firstLeaf : BitTree := .leaf (argument "A")

def secondLeaf : BitTree := .leaf (argument "B")

def complementOfMask : BitTree :=
  .complement (.group (.both "bitwise_and" firstLeaf .and secondLeaf))

/-- At the upper end of 54 bits, with one negative operand that is truncated. -/
theorem eval_complementOfMask :
    let functions := Function.Table.empty
    let arguments := [aboveMinusEight, greatestShort]
    firstLeaf.IsShort functions arguments ∧ secondLeaf.IsShort functions arguments ∧
      complementOfMask.isOperation ∧
      (∃ z, (chain "bitwise_xor" (argument "A") [("^", argument "B")]).eval functions arguments =
        .ok z ∧ IsNearest (Int.xor (-7) (2 ^ 53 - 1) : Int) z) ∧
      (∃ z, (prefixed "~" (argument "A")).eval functions arguments = .ok z ∧
        IsNearest (6 : Int) z) ∧
      (∃ z, complementOfMask.formula.eval functions arguments = .ok z ∧
        value z = (Int.lnot (Int.land (-7) (2 ^ 53 - 1)) : Int)) ∧
      BitTree.Agree functions arguments complementOfMask
        (.both "bitwise_or" (.complement firstLeaf) .or (.complement secondLeaf)) := by
  intro functions arguments
  have first : (argument "A").eval functions arguments = .ok aboveMinusEight := rfl
  have second : (argument "B").eval functions arguments = .ok greatestShort := rfl
  have integer : truncate aboveMinusEight = -7 := by decide +kernel
  have integer' : truncate greatestShort = 2 ^ 53 - 1 := by decide +kernel
  have short : firstLeaf.IsShort functions arguments := by
    intro leaf member
    rw [List.mem_singleton.mp member]
    exact ⟨aboveMinusEight, first, by rw [integer]; decide⟩
  have short' : secondLeaf.IsShort functions arguments := by
    intro leaf member
    rw [List.mem_singleton.mp member]
    exact ⟨greatestShort, second, by rw [integer']; decide⟩
  obtain ⟨operated, complemented, whole, laws⟩ := eval_bitwise functions arguments
  refine ⟨short, short', rfl, ?_, ?_, ?_, ?_⟩
  · obtain ⟨z, evaluated, nearest⟩ := operated .xor "bitwise_xor" _ _ _ _ first second
    rw [integer, integer'] at nearest
    exact ⟨z, evaluated, nearest⟩
  · obtain ⟨z, evaluated, nearest⟩ := complemented _ _ first
    rw [integer] at nearest
    exact ⟨z, evaluated, nearest⟩
  · obtain ⟨z, evaluated, -, same⟩ := whole complementOfMask
      (BitTree.isShort_complement (BitTree.isShort_group (BitTree.isShort_both short short'))) rfl
    rw [complementOfMask, BitTree.integer, BitTree.integer, BitTree.integer_both, firstLeaf,
      secondLeaf, BitTree.integer, BitTree.integer, truncated, truncated, first, second] at same
    simp only [integer, integer'] at same
    exact ⟨z, evaluated, same⟩
  · exact (laws "bitwise_and" "bitwise_or" firstLeaf secondLeaf firstLeaf short short' short).1

end Formula

end Reckon
