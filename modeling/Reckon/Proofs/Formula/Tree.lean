import Reckon.Formula.Build

/-!
# Formulas of parse trees, without a limit

`Formula.ofTree?` is the formula of a parse tree, however deep it is nested, and `Formula.depth`
counts the groups, calls and prefixes on the longest path of a formula.  Building a formula
under a limit gives this formula exactly if the limit allows its depth
(`Formula.build_eq_bounded`).
-/

namespace Reckon.Formula

open Grammar (ParseTree Level)

mutual

/-- The largest number of groups, calls and prefixes that stand inside each other. -/
def depth : Formula → Nat
  | call _ inputs => depthAll inputs + 1
  | prefixed _ operand => operand.depth + 1
  | group inside => inside.depth + 1
  | chain _ first links => max first.depth (depthLinks links)
  | link _ operand => operand.depth
  | number _ | argument _ | noOperand _ | plain _ => 0

def depthAll : List Formula → Nat
  | [] => 0
  | formula :: formulas => max formula.depth (depthAll formulas)

def depthLinks : List (String × Formula) → Nat
  | [] => 0
  | (_, operand) :: links => max operand.depth (depthLinks links)

end

/-- Operands of one level: an operand without links stands for itself. -/
def joined (level : Level) (first : Formula) : List (String × Formula) → Formula
  | [] => first
  | next :: links => chain level.label first (next :: links)

theorem depth_joined (level : Level) (first : Formula) (links : List (String × Formula)) :
    (joined level first links).depth = max first.depth (depthLinks links) := by
  cases links <;> simp [joined, depth, depthLinks]

mutual

/-- The formula of a parse tree, if there is one. -/
def ofTree? : ParseTree → Option Formula
  | .token .number word => some (number (literalValue word))
  | .token .argument word => some (argument (String.ofList word))
  | .node (.chain level) (first :: links) => do
      let first ← ofTree? first
      let links ← linksOf? links
      return joined level first links
  | .node .unary [.token .prefixOperator word, operand] => do
      let operand ← ofTree? operand
      return prefixed (String.ofList word) operand
  | .node .unary [only] => ofTree? only
  | .node .atom [only] => ofTree? only
  | .node .formula [only, .token .endOfText _] => ofTree? only
  | .node .unaryCall [.token .name word, input] => do
      let input ← ofTree? input
      return call (String.ofList word) [input]
  | .node .binaryCall [.token .name word, first, second] => do
      let first ← ofTree? first
      let second ← ofTree? second
      return call (String.ofList word) [first, second]
  | .node .group [only] => do
      let inside ← ofTree? only
      return group inside
  | _ => none

/-- The links that operators and operands in turn stand for, if they do. -/
def linksOf? : List ParseTree → Option (List (String × Formula))
  | [] => some []
  | .token _ word :: operand :: links => do
      let operand ← ofTree? operand
      let links ← linksOf? links
      return (String.ofList word, operand) :: links
  | _ => none

end

/-! ## Building under a limit -/

/-- What becomes of a part that holds `height` nested constructs and stands inside `depth`
others: it is given up at the first construct that stands too deep, which is always one level
past the limit or, from a start past the limit, one level past the start. -/
def bounded {α : Type} (limit depth : Int) (height : Nat) (value : α) : Except Fault α :=
  if height = 0 ∨ depth + height ≤ limit then
    .ok value
  else
    .error (.tooDeep (max depth limit + 1) limit)

theorem bounded_zero {α : Type} (limit depth : Int) (value : α) :
    bounded limit depth 0 value = .ok value := by
  simp [bounded]

/-- Two parts at one place fail like the deeper one of them. -/
theorem bounded_bind {α β : Type} (limit depth : Int) (height other : Nat) (value : α)
    (next : α → Except Fault β) (result : β)
    (rest : next value = bounded limit depth other result) :
    (bounded limit depth height value >>= next) =
      bounded limit depth (max height other) result := by
  by_cases fits : height = 0 ∨ depth + height ≤ limit
  · have left : bounded limit depth height value = .ok value := if_pos fits
    rw [left]
    refine rest.trans ?_
    simp only [bounded]
    congr 1
    simp only [eq_iff_iff]
    omega
  · have left : bounded limit depth height value = .error (.tooDeep (max depth limit + 1) limit) :=
      if_neg fits
    have whole : bounded limit depth (max height other) result =
        .error (.tooDeep (max depth limit + 1) limit) :=
      if_neg (by omega)
    rw [left, whole]
    rfl

/-- The bound is on the height only, not on what is made. -/
theorem bounded_map {α β : Type} (limit depth : Int) (height : Nat) (value : α) (f : α → β) :
    (bounded limit depth height value >>= fun value => pure (f value)) =
      bounded limit depth height (f value) := by
  have rest : (pure (f value) : Except Fault β) = bounded limit depth 0 (f value) :=
    (bounded_zero limit depth (f value)).symm
  rw [bounded_bind limit depth height 0 value _ _ rest, Nat.max_zero]

/-- A construct is one level around what stands in it. -/
theorem deepen_bind {α : Type} (limit depth : Int) (height : Nat)
    (next : Int → Except Fault α) (result : α)
    (rest : next (depth + 1) = bounded limit (depth + 1) height result) :
    (deepen limit depth >>= next) = bounded limit depth (height + 1) result := by
  unfold deepen
  by_cases tooDeep : limit < depth + 1
  · have whole : bounded limit depth (height + 1) result =
        .error (.tooDeep (max depth limit + 1) limit) :=
      if_neg (by omega)
    have level : max depth limit = depth := by omega
    rw [if_pos tooDeep, whole, level]
    rfl
  · rw [if_neg tooDeep]
    refine rest.trans ?_
    have level : max (depth + 1) limit = max depth limit := by omega
    simp only [bounded, level]
    congr 1
    simp only [eq_iff_iff]
    omega

mutual

/-- A formula is built under a limit exactly if its depth fits. -/
theorem build_eq_bounded (limit : Int) {tree : ParseTree} {formula : Formula} (depth : Int)
    (made : ofTree? tree = some formula) :
    build limit depth tree = bounded limit depth formula.depth formula := by
  unfold ofTree? at made
  split at made
  case h_1 word =>
      cases made
      simp [build, Formula.depth, bounded_zero]
  case h_2 word =>
      cases made
      simp [build, Formula.depth, bounded_zero]
  case h_3 level first links =>
      simp only [Option.bind_eq_bind, Option.bind_eq_some_iff] at made
      obtain ⟨first', firstMade, links', linksMade, joint⟩ := made
      cases joint
      rw [build, build_eq_bounded limit depth firstMade, depth_joined]
      refine bounded_bind _ _ _ _ _ _ _ ?_
      let next (links : List (String × Formula)) : Except Fault Formula :=
        if links.isEmpty then pure first' else pure (chain level.label first' links)
      have finish : next links' = bounded limit depth 0 (joined level first' links') := by
        rw [bounded_zero]
        cases links' <;> rfl
      have whole := bounded_bind limit depth (depthLinks links') 0 links' next _ finish
      rw [Nat.max_zero] at whole
      rw [buildLinks_eq_bounded limit depth linksMade]
      exact whole
  case h_4 word operand =>
      simp only [Option.bind_eq_bind, Option.bind_eq_some_iff] at made
      obtain ⟨operand', operandMade, joint⟩ := made
      cases joint
      rw [build]
      refine deepen_bind limit depth _ _ _ ?_
      rw [build_eq_bounded limit (depth + 1) operandMade]
      exact bounded_map limit (depth + 1) _ _ _
  case h_5 only | h_6 only | h_7 only _ =>
      rw [build]
      exact build_eq_bounded limit depth made
  case h_8 word input =>
      simp only [Option.bind_eq_bind, Option.bind_eq_some_iff] at made
      obtain ⟨input', inputMade, joint⟩ := made
      cases joint
      rw [build, Formula.depth, depthAll, depthAll, Nat.max_zero]
      refine deepen_bind limit depth _ _ _ ?_
      rw [build_eq_bounded limit (depth + 1) inputMade]
      exact bounded_map limit (depth + 1) _ _ _
  case h_9 word first second =>
      simp only [Option.bind_eq_bind, Option.bind_eq_some_iff] at made
      obtain ⟨first', firstMade, second', secondMade, joint⟩ := made
      cases joint
      rw [build, Formula.depth, depthAll, depthAll, depthAll, Nat.max_zero]
      refine deepen_bind limit depth _ _ _ ?_
      rw [build_eq_bounded limit (depth + 1) firstMade]
      refine bounded_bind _ _ _ _ _ _ _ ?_
      rw [build_eq_bounded limit (depth + 1) secondMade]
      exact bounded_map limit (depth + 1) _ _ _
  case h_10 only =>
      simp only [Option.bind_eq_bind, Option.bind_eq_some_iff] at made
      obtain ⟨inside, insideMade, joint⟩ := made
      cases joint
      rw [build]
      refine deepen_bind limit depth _ _ _ ?_
      rw [build_eq_bounded limit (depth + 1) insideMade]
      exact bounded_map limit (depth + 1) _ _ _
  case h_11 => cases made
termination_by sizeOf tree

/-- Links are built under a limit exactly if the depth of their operands fits. -/
theorem buildLinks_eq_bounded (limit : Int) {trees : List ParseTree}
    {links : List (String × Formula)} (depth : Int) (made : linksOf? trees = some links) :
    buildLinks limit depth trees = bounded limit depth (depthLinks links) links := by
  unfold linksOf? at made
  split at made
  case h_1 =>
      cases made
      rw [buildLinks.eq_2 _ _ _ (by simp), depthLinks, bounded_zero]
  case h_2 kind word operand others =>
      simp only [Option.bind_eq_bind, Option.bind_eq_some_iff] at made
      obtain ⟨operand', operandMade, links', linksMade, joint⟩ := made
      cases joint
      rw [buildLinks, build_eq_bounded limit depth operandMade, depthLinks]
      refine bounded_bind _ _ _ _ _ _ _ ?_
      rw [buildLinks_eq_bounded limit depth linksMade]
      exact bounded_map limit depth _ _ _
  case h_3 => cases made
termination_by sizeOf trees

end

end Reckon.Formula
