import Reckon.Proofs.Formula.Phrase
import Reckon.Proofs.Grammar.Depth

/-!
# The nesting depth of a text is the depth of its formula

The tokens of a phrase open exactly as many levels as its formula is deep, from whatever levels
they start, and close all parentheses again (`Phrase.rises`); prefixes may stay pending.  Hence
the depth that is told from the characters of a sentence is the depth of its formula
(`Sentence.depth_eq`).
-/

namespace Reckon.Formula

open Grammar (Layout Level Nesting Rule Token)

/-- Some tokens open at most so many levels at once, and close their parentheses again. -/
structure Rises (nesting : Nesting) (tokens : List Token) (height : Nat) : Prop where
  summit : nesting.summit tokens = nesting.level + height
  around : (nesting.behindAll tokens).around = nesting.around

variable {nesting : Nesting} {tokens others : List Token} {height other : Nat}

/-- A word that is no operator, parenthesis or separator opens nothing. -/
theorem Rises.singleton {token : Token} (still : nesting.behind token.kind = nesting) :
    Rises nesting [token] 0 where
  summit := by rw [Nesting.summit, Nesting.summit, still, Nat.max_self, Nat.add_zero]
  around := by rw [Nesting.behindAll, List.foldl_cons, List.foldl_nil, still]

theorem Rises.lead {token : Token} (still : nesting.behind token.kind = nesting)
    (rises : Rises nesting tokens height) : Rises nesting (token :: tokens) height where
  summit := by
    rw [Nesting.summit, still, rises.summit]
    omega
  around := by
    rw [Nesting.behindAll, List.foldl_cons, still]
    exact rises.around

/-- A prefix is one level, and waits for its operand. -/
theorem Rises.prefixed {operator : Token} (kind : operator.kind = .prefixOperator)
    (rises : Rises (nesting.behind .prefixOperator) tokens height) :
    Rises nesting (operator :: tokens) (height + 1) where
  summit := by
    rw [Nesting.summit, kind, rises.summit]
    simp only [Nesting.level, Nesting.behind]
    omega
  around := by
    rw [Nesting.behindAll, List.foldl_cons, kind]
    exact rises.around

/-- A pair of parentheses is one level around what stands in it. -/
theorem Rises.parenthesize {opening closing : Token}
    (openingKind : opening.kind = .openParenthesis)
    (closingKind : closing.kind = .closeParenthesis)
    (rises : Rises (nesting.behind .openParenthesis) tokens height) :
    Rises nesting (opening :: (tokens ++ [closing])) (height + 1) := by
  have closed : ((nesting.behind .openParenthesis).behindAll tokens).behind .closeParenthesis =
      nesting :=
    Nesting.behind_closeParenthesis rises.around
  refine ⟨?_, ?_⟩
  · rw [Nesting.summit, openingKind, Nesting.summit_append, rises.summit, Nesting.summit,
      Nesting.summit, closingKind, closed]
    have below := Nesting.level_behindAll_le_summit (nesting.behind .openParenthesis) tokens
    rw [rises.summit] at below
    simp only [Nesting.level, Nesting.behind, List.length_cons, List.foldr_cons] at below ⊢
    omega
  · rw [Nesting.behindAll, List.foldl_cons, openingKind, ← Nesting.behindAll,
      Nesting.behindAll_append, Nesting.behindAll, List.foldl_cons, List.foldl_nil, closingKind,
      closed]

/-- What an operator or a comma joins stands side by side. -/
theorem Rises.join {joint : Token} (start : nesting.pending = 0)
    (joins : joint.kind.joins = true) (rises : Rises nesting tokens height)
    (rises' : Rises nesting others other) :
    Rises nesting (tokens ++ joint :: others) (max height other) := by
  have back : (nesting.behindAll tokens).behind joint.kind = nesting := by
    rw [Nesting.behind_of_joins _ joins, Nesting.settled, rises.around, ← start]
  refine ⟨?_, ?_⟩
  · have below := Nesting.level_behindAll_le_summit nesting tokens
    rw [rises.summit] at below
    rw [Nesting.summit_append, rises.summit, Nesting.summit, back, rises'.summit]
    omega
  · rw [Nesting.behindAll_append, Nesting.behindAll, List.foldl_cons, back]
    exact rises'.around

/-- An operator lets the prefixes before it go, so that the links rise side by side. -/
theorem Rises.links {level : Level} {links : List Link} (start : nesting.pending = 0)
    (rises : Rises nesting tokens height)
    (kinds : ∀ link ∈ links, link.operator.kind = level.operator)
    (operands : ∀ link ∈ links, Rises nesting link.tokens link.operand.depth) :
    Rises nesting (tokens ++ links.flatMap Link.all)
      (max height (depthLinks (links.map Link.entry))) := by
  induction links generalizing tokens height with
  | nil => simpa [depthLinks] using rises
  | cons link links inductionHypothesis =>
      obtain ⟨kind, kinds⟩ := List.forall_mem_cons.mp kinds
      obtain ⟨next, operands⟩ := List.forall_mem_cons.mp operands
      have joins : link.operator.kind.joins = true := kind ▸ level.joins_operator
      rw [List.flatMap_cons, ← List.append_assoc, List.map_cons, Link.entry, depthLinks,
        ← Nat.max_assoc]
      exact inductionHypothesis (rises.join start joins next) kinds operands

/-- A phrase opens as many levels as its formula is deep.  A chain starts without pending
prefixes, and every operator in it gets back to that. -/
theorem Phrase.rises {name : Rule} {tokens : List Token} {formula : Formula}
    (phrase : Phrase name tokens formula) (nesting : Nesting)
    (start : ∀ level, name = .chain level → nesting.pending = 0) :
    Rises nesting tokens formula.depth := by
  -- over all nestings, as the operands of prefixes, groups and calls start from others
  induction phrase generalizing nesting with
  | number kind | argument kind =>
      rw [Formula.depth]
      exact .singleton (by rw [kind]; rfl)
  | group openingKind closingKind _ inside =>
      rw [Formula.depth]
      exact (inside _ fun _ _ => rfl).parenthesize openingKind closingKind
  | unaryCall nameKind openingKind closingKind _ input =>
      rw [Formula.depth, depthAll, depthAll, Nat.max_zero]
      have inner := (input (nesting.behind .openParenthesis) fun _ _ => rfl).parenthesize
        openingKind closingKind
      exact inner.lead (by rw [nameKind]; rfl)
  | binaryCall nameKind openingKind separatorKind closingKind _ _ first second =>
      rw [Formula.depth, depthAll, depthAll, depthAll, Nat.max_zero]
      have one := first (nesting.behind .openParenthesis) fun _ _ => rfl
      have other := second (nesting.behind .openParenthesis) fun _ _ => rfl
      have inner := (one.join rfl (by rw [separatorKind]; rfl) other).parenthesize
        openingKind closingKind
      rw [List.append_assoc] at inner
      exact inner.lead (by rw [nameKind]; rfl)
  | enclosed closed _ inner =>
      refine inner nesting fun level chained => ?_
      rcases closed with rfl | rfl | rfl <;> cases chained
  | bare _ inner => exact inner nesting fun _ chained => by cases chained
  | prefixed kind _ operand =>
      rw [Formula.depth]
      exact (operand _ fun _ chained => by cases chained).prefixed kind
  | @chain level _ _ links _ kinds _ first operands =>
      have settled := start level rfl
      rw [depth_joined]
      exact (first nesting fun _ _ => settled).links settled kinds fun link member =>
        operands link member nesting fun _ _ => settled

/-- The nesting depth of a text with a formula is the depth of the formula. -/
theorem Sentence.depth_eq {tokens : List Token} {formula : Formula} {text : List Char}
    (sentence : Sentence tokens formula) (layout : Layout tokens text) :
    Nesting.depth text = formula.depth := by
  rw [Nesting.depth_eq_summit (sentence.lexed layout)]
  obtain ⟨phrase, ending, rfl, ends, isPhrase⟩ := sentence
  have rises := isPhrase.rises .outermost fun _ _ => rfl
  have below := Nesting.level_behindAll_le_summit .outermost phrase
  have outermost : Nesting.outermost.level = 0 := rfl
  rw [Nesting.summit_append, Nesting.summit, Nesting.summit, ends, Nesting.behind, Nat.max_self,
    Nat.max_eq_left below, rises.summit, outermost, Nat.zero_add]

end Reckon.Formula
