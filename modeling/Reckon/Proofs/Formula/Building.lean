import Reckon.Proofs.Formula.Reading

/-!
# Building the formula of a part of a parse tree

Every part of a parse tree that is an expression can be built on its own, as if it stood inside
any number of constructs.  Whether it is built depends on one number only, the largest number of
prefixes, calls and groups that stand inside each other in it (`ParseTree.constructs`), and a
part that does not fit is always reported one level past the limit, or past the start if that is
beyond the limit already (`Formula.build_expression`).
-/

namespace Reckon

open Grammar (ParseTree Peg Rule Terminal Token)

namespace Grammar.ParseTree

/-! ## Constructs of a parse tree -/

/-- Whether a node is a construct: a prefix with its operand, a call or a group. -/
def isConstruct : Rule → List ParseTree → Bool
  | .unary, .token .prefixOperator _ :: _ => true
  | .unaryCall, _ | .binaryCall, _ | .group, _ => true
  | _, _ => false

mutual

/-- The largest number of constructs that stand inside each other in a parse tree. -/
def constructs : ParseTree → Nat
  | .token _ _ => 0
  | .node rule children => constructsAll children + if isConstruct rule children then 1 else 0

def constructsAll : List ParseTree → Nat
  | [] => 0
  | tree :: trees => max tree.constructs (constructsAll trees)

end

theorem constructs_token (terminal : Terminal) (word : List Char) :
    (token terminal word).constructs = 0 := by
  rw [constructs]

/-! ## Parts of a parse tree -/

/-- A tree stands somewhere in another one, or is that tree. -/
inductive Within : ParseTree → ParseTree → Prop
  | whole (tree : ParseTree) : Within tree tree
  | child {part child : ParseTree} {rule : Rule} {children : List ParseTree} :
      child ∈ children →
      Within part child →
      Within part (.node rule children)

/-- A parse tree that the grammar has for an expression: a node of one of its rules, or the word
of a number or of an argument name. -/
inductive IsExpression : ParseTree → Prop
  | node {rule : Rule} {tokens : List Token} {children : List ParseTree} :
      rule.body.Derives tokens children →
      IsExpression (.node rule children)
  | number {word : List Char} :
      Terminal.number.Spells word →
      IsExpression (.token .number word)
  | argument {word : List Char} :
      Terminal.argument.Spells word →
      IsExpression (.token .argument word)

/-- Whether the root of a tree is an expression, and no operator, function name or end. -/
def isRooted : ParseTree → Bool
  | .node _ _ | .token .number _ | .token .argument _ => true
  | .token _ _ => false

end Grammar.ParseTree

open Grammar.ParseTree (IsExpression Within)

namespace Grammar

/-- In what is derived every part with the root of an expression is one. -/
theorem Peg.Derives.isExpression {expression : Peg} {tokens : List Token}
    {trees : List ParseTree} (derives : expression.Derives tokens trees)
    {tree part : ParseTree} (member : tree ∈ trees) (within : part.Within tree)
    (rooted : part.isRooted = true) : part.IsExpression := by
  induction derives generalizing tree part with
  | terminal token =>
      have word : tree = .token token.kind token.word := by
        rw [ParseTree.ofWord] at member
        split at member
        · cases member
        · exact List.mem_singleton.mp member
      subst word
      cases within
      obtain ⟨kind, word, spelled⟩ := token
      cases kind with
      | number => exact .number spelled
      | argument => exact .argument spelled
      | _ => cases rooted
  | rule inner inductionHypothesis =>
      obtain rfl := List.mem_singleton.mp member
      cases within with
      | whole => exact .node inner
      | child member' within' => exact inductionHypothesis member' within' rooted
  | sequence _ _ firstHypothesis secondHypothesis
  | more _ _ firstHypothesis secondHypothesis =>
      rcases List.mem_append.mp member with before | behind
      · exact firstHypothesis before within rooted
      · exact secondHypothesis behind within rooted
  | left _ inductionHypothesis | right _ inductionHypothesis | nested _ inductionHypothesis =>
      exact inductionHypothesis member within rooted
  | stop => cases member

end Grammar

/-- So is every such part of a tree that is read off a text. -/
theorem Reader.isExpression_of_parseTree {reader : Reader} {text : List Char}
    {tree part : ParseTree} (parsed : reader.parseTree text = .ok tree)
    (within : part.Within tree) (rooted : part.isRooted = true) : part.IsExpression := by
  rw [parseTree] at parsed
  cases result : reader.result text with
  | failed expected => simp [result] at parsed
  | exhausted => simp [result] at parsed
  | matched trees rest expected =>
      rw [result] at parsed
      cases parsed
      have roomy : reader.result text ≠ .exhausted := by simp [result]
      obtain ⟨spare, run, -⟩ := settles_result roomy
      have matched : Rule.formula.body.Matches spare (.start text) trees rest :=
        ⟨expected, run.trans result⟩
      obtain ⟨tokens, read, derives, -, -⟩ := matched.derives
      exact (Peg.Derives.rule derives).isExpression (List.mem_singleton_self _) within rooted

namespace Formula

/-! ## Building a part -/

/-- What has a formula is no prefix operator, so that nothing is negated by it. -/
theorem isConstruct_of_made {only : ParseTree} {formula : Formula}
    (made : ofTree? only = some formula) : ParseTree.isConstruct .unary [only] = false := by
  cases only with
  | node rule children => rfl
  | token kind word =>
      cases kind with
      | prefixOperator => simp [ofTree?] at made
      | _ => rfl

mutual

/-- A formula is as deep as its parse tree has constructs inside each other. -/
theorem depth_of_made {tree : ParseTree} {formula : Formula} (made : ofTree? tree = some formula) :
    formula.depth = tree.constructs := by
  unfold ofTree? at made
  split at made
  case h_1 word | h_2 word =>
      cases made
      rw [Formula.depth, ParseTree.constructs_token]
  case h_3 level first links =>
      simp only [Option.bind_eq_bind, Option.bind_eq_some_iff] at made
      obtain ⟨first', firstMade, links', linksMade, joint⟩ := made
      cases joint
      rw [depth_joined, depth_of_made firstMade, depthLinks_of_made linksMade,
        ParseTree.constructs, ParseTree.constructsAll]
      rfl
  case h_4 word operand =>
      simp only [Option.bind_eq_bind, Option.bind_eq_some_iff] at made
      obtain ⟨operand', operandMade, joint⟩ := made
      cases joint
      rw [Formula.depth, depth_of_made operandMade]
      simp [ParseTree.constructs, ParseTree.constructsAll, ParseTree.isConstruct]
  case h_5 only =>
      rw [depth_of_made made, ParseTree.constructs, isConstruct_of_made made]
      simp [ParseTree.constructsAll]
  case h_6 only =>
      rw [depth_of_made made]
      simp [ParseTree.constructs, ParseTree.constructsAll, ParseTree.isConstruct]
  case h_7 only _ =>
      rw [depth_of_made made]
      simp [ParseTree.constructs, ParseTree.constructsAll, ParseTree.isConstruct]
  case h_8 word input =>
      simp only [Option.bind_eq_bind, Option.bind_eq_some_iff] at made
      obtain ⟨input', inputMade, joint⟩ := made
      cases joint
      rw [Formula.depth, depthAll, depthAll, depth_of_made inputMade]
      simp [ParseTree.constructs, ParseTree.constructsAll, ParseTree.isConstruct]
  case h_9 word first second =>
      simp only [Option.bind_eq_bind, Option.bind_eq_some_iff] at made
      obtain ⟨first', firstMade, second', secondMade, joint⟩ := made
      cases joint
      rw [Formula.depth, depthAll, depthAll, depthAll, depth_of_made firstMade,
        depth_of_made secondMade]
      simp [ParseTree.constructs, ParseTree.constructsAll, ParseTree.isConstruct]
  case h_10 only =>
      simp only [Option.bind_eq_bind, Option.bind_eq_some_iff] at made
      obtain ⟨inside, insideMade, joint⟩ := made
      cases joint
      rw [Formula.depth, depth_of_made insideMade]
      simp [ParseTree.constructs, ParseTree.constructsAll, ParseTree.isConstruct]
  case h_11 => cases made
termination_by sizeOf tree

/-- Links are as deep as their parse trees have constructs inside each other. -/
theorem depthLinks_of_made {trees : List ParseTree} {links : List (String × Formula)}
    (made : linksOf? trees = some links) :
    depthLinks links = ParseTree.constructsAll trees := by
  unfold linksOf? at made
  split at made
  case h_1 =>
      cases made
      rw [depthLinks, ParseTree.constructsAll]
  case h_2 kind word operand others =>
      simp only [Option.bind_eq_bind, Option.bind_eq_some_iff] at made
      obtain ⟨operand', operandMade, links', linksMade, joint⟩ := made
      cases joint
      rw [depthLinks, depth_of_made operandMade, depthLinks_of_made linksMade]
      simp [ParseTree.constructsAll, ParseTree.constructs_token]
  case h_3 => cases made
termination_by sizeOf trees

end

/-- Every parse tree of an expression has a formula. -/
theorem exists_made {tree : ParseTree} (expression : tree.IsExpression) :
    ∃ formula, ofTree? tree = some formula := by
  cases expression with
  | node derives =>
      obtain ⟨formula, made, -⟩ := stands_of_derives derives
      exact ⟨formula, made⟩
  | number _ | argument _ => exact ⟨_, by rw [ofTree?]⟩

/-- The formula of an expression does not depend on the limit or on what the expression stands
in.  It is built exactly if it has no constructs or they fit under the limit; if they do not, the
first one that stands too deep is one level past the limit, or past the start beyond it. -/
theorem build_expression {tree : ParseTree} (expression : tree.IsExpression) :
    ∃ formula, ∀ limit depth : Int,
      build limit depth tree =
        if tree.constructs = 0 ∨ depth + tree.constructs ≤ limit then
          .ok formula
        else
          .error (.tooDeep (max depth limit + 1) limit) := by
  obtain ⟨formula, made⟩ := exists_made expression
  refine ⟨formula, fun limit depth => ?_⟩
  rw [build_eq_bounded limit depth made, depth_of_made made, bounded]

/-- The tree of `!(A)` with two constructs: it fits under a limit of two and inside five others
under a limit of seven, and is reported past a limit of one, and past a start beyond the limit. -/
theorem build_negatedGroup :
    ∃ tree formula, ({ limit := 0 } : Reader).parseTree "!(A)".toList = .ok tree ∧
      tree.IsExpression ∧ tree.constructs = 2 ∧
      build 2 0 tree = .ok formula ∧ build 7 5 tree = .ok formula ∧
      build 1 0 tree = .error (.tooDeep 2 1) ∧ build 3 9 tree = .error (.tooDeep 10 3) := by
  obtain ⟨derivation, -⟩ := derivation_negatedGroup
  have roomy : ({ limit := 0 } : Reader).result "!(A)".toList ≠ .exhausted :=
    Reader.roomy_of_derivation derivation (by decide)
  obtain ⟨tree, parsed, made⟩ := Reader.parseTree_of_derivation roomy derivation
  have rooted : tree.isRooted = true := by
    cases tree with
    | node rule children => rfl
    | token kind word => cases kind <;> cases made
  have expression := Reader.isExpression_of_parseTree parsed (.whole tree) rooted
  have constructs : tree.constructs = 2 := (depth_of_made made).symm
  obtain ⟨formula, built⟩ := build_expression expression
  refine ⟨tree, formula, parsed, expression, constructs, ?_, ?_, ?_, ?_⟩
  · rw [built, constructs]
    rfl
  · rw [built, constructs]
    rfl
  · rw [built, constructs]
    rfl
  · rw [built, constructs]
    rfl

end Formula

end Reckon
