import Reckon.Proofs.Formula.Tree
import Reckon.Proofs.Grammar.Derivation

/-!
# Phrases

A phrase is a run of tokens that a rule derives, together with the formula it stands for;
`Phrase` has one constructor for every form of formula, and chains are taken as a whole.
Everything that is derived is a phrase (`Formula.stands_of_derives`), so that facts about all
derivations are proved by induction on phrases.
-/

namespace Reckon.Formula

open Grammar (Level ParseTree Peg Rule Terminal Token)

/-- A link of a chain with its tokens. -/
structure Link where
  operator : Token
  tokens : List Token
  operand : Formula

def Link.all (link : Link) : List Token :=
  link.operator :: link.tokens

def Link.entry (link : Link) : String × Formula :=
  (String.ofList link.operator.word, link.operand)

/-- Some tokens are an expression of a rule and stand for a formula. -/
inductive Phrase : Rule → List Token → Formula → Prop
  | number {token : Token} :
      token.kind = .number →
      Phrase .atom [token] (.number (literalValue token.word))
  | argument {token : Token} :
      token.kind = .argument →
      Phrase .atom [token] (.argument (String.ofList token.word))
  | group {opening closing : Token} {tokens : List Token} {inside : Formula} :
      opening.kind = .openParenthesis →
      closing.kind = .closeParenthesis →
      Phrase (.chain .logicalOr) tokens inside →
      Phrase .group (opening :: (tokens ++ [closing])) (.group inside)
  | unaryCall {name opening closing : Token} {tokens : List Token} {input : Formula} :
      name.kind = .name →
      opening.kind = .openParenthesis →
      closing.kind = .closeParenthesis →
      Phrase (.chain .logicalOr) tokens input →
      Phrase .unaryCall (name :: opening :: (tokens ++ [closing]))
        (.call (String.ofList name.word) [input])
  | binaryCall {name opening separator closing : Token} {tokens others : List Token}
      {first second : Formula} :
      name.kind = .name →
      opening.kind = .openParenthesis →
      separator.kind = .comma →
      closing.kind = .closeParenthesis →
      Phrase (.chain .logicalOr) tokens first →
      Phrase (.chain .logicalOr) others second →
      Phrase .binaryCall (name :: opening :: (tokens ++ separator :: (others ++ [closing])))
        (.call (String.ofList name.word) [first, second])
  | enclosed {name : Rule} {tokens : List Token} {formula : Formula} :
      name = .group ∨ name = .unaryCall ∨ name = .binaryCall →
      Phrase name tokens formula →
      Phrase .atom tokens formula
  | bare {tokens : List Token} {formula : Formula} :
      Phrase .atom tokens formula →
      Phrase .unary tokens formula
  | prefixed {operator : Token} {tokens : List Token} {operand : Formula} :
      operator.kind = .prefixOperator →
      Phrase .unary tokens operand →
      Phrase .unary (operator :: tokens) (.prefixed (String.ofList operator.word) operand)
  | chain {level : Level} {tokens : List Token} {first : Formula} (links : List Link) :
      Phrase level.operand tokens first →
      (∀ link ∈ links, link.operator.kind = level.operator) →
      (∀ link ∈ links, Phrase level.operand link.tokens link.operand) →
      Phrase (.chain level) (tokens ++ links.flatMap Link.all)
        (joined level first (links.map Link.entry))

/-- An operand without links is a chain. -/
theorem Phrase.alone {level : Level} {tokens : List Token} {formula : Formula}
    (phrase : Phrase level.operand tokens formula) : Phrase (.chain level) tokens formula := by
  simpa [joined] using Phrase.chain [] phrase (by simp) (by simp)

/-- What stands at the tightest level stands at every level. -/
theorem Phrase.lift (level : Level) {tokens : List Token} {formula : Formula}
    (phrase : Phrase .unary tokens formula) : Phrase (.chain level) tokens formula := by
  have multiplicative : Phrase (.chain .multiplicative) tokens formula := alone phrase
  have additive : Phrase (.chain .additive) tokens formula := alone multiplicative
  have relational : Phrase (.chain .relational) tokens formula := alone additive
  have equality : Phrase (.chain .equality) tokens formula := alone relational
  have bitwiseAnd : Phrase (.chain .bitwiseAnd) tokens formula := alone equality
  have bitwiseXor : Phrase (.chain .bitwiseXor) tokens formula := alone bitwiseAnd
  have bitwiseOr : Phrase (.chain .bitwiseOr) tokens formula := alone bitwiseXor
  have logicalAnd : Phrase (.chain .logicalAnd) tokens formula := alone bitwiseOr
  cases level with
  | logicalOr => exact alone logicalAnd
  | _ => assumption

/-- Some tokens up to the end of the text are a whole formula. -/
def Sentence (tokens : List Token) (formula : Formula) : Prop :=
  ∃ phrase ending, tokens = phrase ++ [ending] ∧ ending.kind = .endOfText ∧
    Phrase (.chain .logicalOr) phrase formula

/-- The tokens of a rule, with the formula of its parse tree, are a phrase or a sentence. -/
def Stands (name : Rule) (tokens : List Token) (tree : ParseTree) : Prop :=
  ∃ formula, ofTree? tree = some formula ∧
    if name = .formula then Sentence tokens formula else Phrase name tokens formula

/-- What stands for a rule in a derivation is a phrase of the rule. -/
theorem Stands.phrase {name : Rule} {tokens : List Token} {tree : ParseTree}
    (stands : Stands name tokens tree) (inner : name ≠ .formula) :
    ∃ formula, ofTree? tree = some formula ∧ Phrase name tokens formula := by
  obtain ⟨formula, made, phrase⟩ := stands
  exact ⟨formula, made, by rwa [if_neg inner] at phrase⟩

theorem operand_ne_formula (level : Level) : level.operand ≠ .formula := by
  cases level <;> simp [Level.operand]

theorem not_isPunctuation_operator (level : Level) : level.operator.isPunctuation = false := by
  cases level <;> rfl

/-- The links of a chain that is put together from operators and operands. -/
theorem links_of_rounds {level : Level} {rounds : List (List Token × List ParseTree)}
    (made : ∀ round ∈ rounds,
      (Peg.sequence (.terminal level.operator) (.rule level.operand)).Made Stands
        round.1 round.2) :
    ∃ links : List Link, rounds.flatMap Prod.fst = links.flatMap Link.all ∧
      linksOf? (rounds.flatMap Prod.snd) = some (links.map Link.entry) ∧
      (∀ link ∈ links, link.operator.kind = level.operator) ∧
      ∀ link ∈ links, Phrase level.operand link.tokens link.operand := by
  induction rounds with
  | nil => exact ⟨[], rfl, by simp [linksOf?], by simp, by simp⟩
  | cons round rounds inductionHypothesis =>
      obtain ⟨links, tokensEq, treesEq, kinds, phrases⟩ :=
        inductionHypothesis fun round member => made round (List.mem_cons_of_mem _ member)
      obtain ⟨before, behind, some, others, split, splitTrees, ⟨operator, kind, rfl, rfl⟩,
        tree, rfl, stands⟩ := made round List.mem_cons_self
      obtain ⟨operand, operandMade, phrase⟩ := stands.phrase (operand_ne_formula level)
      refine ⟨⟨operator, behind, operand⟩ :: links, ?_, ?_, ?_, ?_⟩
      · rw [List.flatMap_cons, List.flatMap_cons, tokensEq, split]
        rfl
      · rw [List.flatMap_cons, splitTrees, ParseTree.ofWord, not_isPunctuation_operator level]
        simp [linksOf?, operandMade, treesEq, Link.entry]
      · exact List.forall_mem_cons.mpr ⟨kind, kinds⟩
      · exact List.forall_mem_cons.mpr ⟨phrase, phrases⟩

/-- What is put together by a rule stands for a formula, if its parts do. -/
theorem Stands.of_made (name : Rule) (tokens : List Token) (trees : List ParseTree)
    (made : name.body.Made Stands tokens trees) : Stands name tokens (.node name trees) := by
  cases name with
  | formula =>
      obtain ⟨before, behind, _, _, rfl, rfl, ⟨tree, rfl, stands⟩, ending, ends, rfl, rfl⟩ := made
      obtain ⟨formula, formulaMade, phrase⟩ := stands.phrase (by simp)
      exact ⟨formula, by simpa [ofTree?, ParseTree.ofWord, Terminal.isPunctuation],
        before, ending, rfl, ends, phrase⟩
  | chain level =>
      obtain ⟨before, behind, _, others, rfl, rfl, ⟨tree, rfl, stands⟩, rounds, rfl, rfl, all⟩ :=
        made
      obtain ⟨first, firstMade, phrase⟩ := stands.phrase (operand_ne_formula level)
      obtain ⟨links, tokensEq, linksMade, kinds, phrases⟩ := links_of_rounds all
      refine ⟨joined level first (links.map Link.entry), ?_, ?_⟩
      · simp [ofTree?, firstMade, linksMade]
      · rw [tokensEq]
        exact .chain links phrase kinds phrases
  | unary =>
      rcases made with ⟨_, behind, _, _, rfl, rfl, ⟨operator, kind, rfl, rfl⟩, tree, rfl, stands⟩ |
        ⟨tree, rfl, stands⟩
      · obtain ⟨operand, operandMade, phrase⟩ := stands.phrase (by simp)
        exact ⟨.prefixed (String.ofList operator.word) operand,
          by simp [ofTree?, operandMade, ParseTree.ofWord, Terminal.isPunctuation],
          .prefixed kind phrase⟩
      · obtain ⟨formula, formulaMade, phrase⟩ := stands.phrase (by simp)
        exact ⟨formula, by simpa [ofTree?], .bare phrase⟩
  | atom =>
      rcases made with ⟨tree, rfl, stands⟩ | ⟨tree, rfl, stands⟩ | ⟨token, kind, rfl, rfl⟩ |
        ⟨token, kind, rfl, rfl⟩ | ⟨tree, rfl, stands⟩
      · obtain ⟨formula, formulaMade, phrase⟩ := stands.phrase (by simp)
        exact ⟨formula, by simpa [ofTree?], .enclosed (by simp) phrase⟩
      · obtain ⟨formula, formulaMade, phrase⟩ := stands.phrase (by simp)
        exact ⟨formula, by simpa [ofTree?], .enclosed (by simp) phrase⟩
      · exact ⟨_, by simp [ofTree?, ParseTree.ofWord, Terminal.isPunctuation], .number kind⟩
      · exact ⟨_, by simp [ofTree?, ParseTree.ofWord, Terminal.isPunctuation], .argument kind⟩
      · obtain ⟨formula, formulaMade, phrase⟩ := stands.phrase (by simp)
        exact ⟨formula, by simpa [ofTree?], .enclosed (by simp) phrase⟩
  | binaryCall =>
      obtain ⟨_, _, _, _, rfl, rfl, ⟨name, nameKind, rfl, rfl⟩, _, _, _, _, rfl, rfl,
        ⟨opening, openingKind, rfl, rfl⟩, _, _, _, _, rfl, rfl, ⟨tree, rfl, stands⟩,
        _, _, _, _, rfl, rfl, ⟨separator, separatorKind, rfl, rfl⟩, _, _, _, _, rfl, rfl,
        ⟨other, rfl, stands'⟩, closing, closingKind, rfl, rfl⟩ := made
      obtain ⟨first, firstMade, phrase⟩ := stands.phrase (by simp)
      obtain ⟨second, secondMade, phrase'⟩ := stands'.phrase (by simp)
      exact ⟨.call (String.ofList name.word) [first, second],
        by simp [ofTree?, ParseTree.ofWord, Terminal.isPunctuation, firstMade, secondMade],
        .binaryCall nameKind openingKind separatorKind closingKind phrase phrase'⟩
  | unaryCall =>
      obtain ⟨_, _, _, _, rfl, rfl, ⟨name, nameKind, rfl, rfl⟩, _, _, _, _, rfl, rfl,
        ⟨opening, openingKind, rfl, rfl⟩, _, _, _, _, rfl, rfl, ⟨tree, rfl, stands⟩,
        closing, closingKind, rfl, rfl⟩ := made
      obtain ⟨input, inputMade, phrase⟩ := stands.phrase (by simp)
      exact ⟨.call (String.ofList name.word) [input],
        by simp [ofTree?, ParseTree.ofWord, Terminal.isPunctuation, inputMade],
        .unaryCall nameKind openingKind closingKind phrase⟩
  | group =>
      obtain ⟨_, _, _, _, rfl, rfl, ⟨opening, openingKind, rfl, rfl⟩, _, _, _, _, rfl, rfl,
        ⟨tree, rfl, stands⟩, closing, closingKind, rfl, rfl⟩ := made
      obtain ⟨inside, insideMade, phrase⟩ := stands.phrase (by simp)
      exact ⟨.group inside,
        by simp [ofTree?, ParseTree.ofWord, Terminal.isPunctuation, insideMade],
        .group openingKind closingKind phrase⟩

/-- The tree that a rule leaves for derived tokens stands for a formula. -/
theorem stands_of_derives {name : Rule} {tokens : List Token} {trees : List ParseTree}
    (derives : name.body.Derives tokens trees) : Stands name tokens (.node name trees) :=
  Stands.of_made name tokens trees (derives.made Stands.of_made)

/-! ## The order of tokens in a phrase -/

/-- Some tokens may follow each other, and look like an operand at both ends. -/
structure Shape (tokens : List Token) : Prop where
  nonempty : tokens ≠ []
  order : tokens.IsChain Token.MayPrecede
  opens : ∀ token ∈ tokens.head?, token.kind.opens = true
  closes : ∀ token ∈ tokens.getLast?, token.kind.closes = true

theorem Shape.singleton {token : Token} (opens : token.kind.opens = true)
    (closes : token.kind.closes = true) : Shape [token] where
  nonempty := by simp
  order := List.isChain_singleton token
  opens := by simpa using opens
  closes := by simpa using closes

theorem Shape.lead {token : Token} {tokens : List Token} (shape : Shape tokens)
    (leads : token.kind.joins = true ∨ token.kind = .prefixOperator ∨
      token.kind = .openParenthesis) :
    (token :: tokens).IsChain Token.MayPrecede := by
  refine shape.order.cons fun next front => ?_
  have opens := shape.opens next front
  rcases leads with joins | kind | kind <;>
    simp [Token.MayPrecede, Terminal.mayPrecede, *]

/-- An operator joins two shapes: it may follow the first and precede the second. -/
theorem Shape.join {joint : Token} {tokens others : List Token} (shape : Shape tokens)
    (joins : joint.kind.joins = true) (shape' : Shape others) :
    Shape (tokens ++ joint :: others) where
  nonempty := by simp
  order := by
    refine shape.order.append (shape'.lead (Or.inl joins)) fun last back next front => ?_
    obtain rfl : joint = next := by simpa using front
    simp [Token.MayPrecede, Terminal.mayPrecede, shape.closes last back, joins]
  opens := by
    rw [List.head?_append_of_ne_nil _ shape.nonempty]
    exact shape.opens
  closes := by
    intro last back
    rw [List.getLast?_append_of_ne_nil _ (List.cons_ne_nil _ _),
      List.getLast?_cons_of_ne_nil shape'.nonempty] at back
    exact shape'.closes last back

/-- Parentheses around a shape make a shape. -/
theorem Shape.parenthesize {opening closing : Token} {tokens : List Token}
    (openingKind : opening.kind = .openParenthesis)
    (closingKind : closing.kind = .closeParenthesis) (shape : Shape tokens) :
    Shape (opening :: (tokens ++ [closing])) where
  nonempty := by simp
  order := by
    rw [← List.cons_append]
    refine (shape.lead (Or.inr (Or.inr openingKind))).append (List.isChain_singleton _) ?_
    intro last back next front
    obtain rfl : closing = next := by simpa using front
    rw [List.getLast?_cons_of_ne_nil shape.nonempty] at back
    simp [Token.MayPrecede, Terminal.mayPrecede, shape.closes last back, closingKind]
  opens := by simp [openingKind, Terminal.opens]
  closes := by simp [List.getLast?_cons, closingKind, Terminal.closes]

theorem Shape.name {name opening : Token} {tokens : List Token} (nameKind : name.kind = .name)
    (openingKind : opening.kind = .openParenthesis) (shape : Shape (opening :: tokens)) :
    Shape (name :: opening :: tokens) where
  nonempty := by simp
  order := by
    refine List.isChain_cons_cons.mpr ⟨?_, shape.order⟩
    simp [Token.MayPrecede, Terminal.mayPrecede, nameKind, openingKind]
  opens := by simp [nameKind, Terminal.opens]
  closes := by
    rw [List.getLast?_cons_of_ne_nil shape.nonempty]
    exact shape.closes

theorem Shape.links {level : Level} {tokens : List Token} {links : List Link}
    (shape : Shape tokens) (kinds : ∀ link ∈ links, link.operator.kind = level.operator)
    (shapes : ∀ link ∈ links, Shape link.tokens) :
    Shape (tokens ++ links.flatMap Link.all) := by
  induction links generalizing tokens with
  | nil => simpa using shape
  | cons link links inductionHypothesis =>
      obtain ⟨kind, kinds⟩ := List.forall_mem_cons.mp kinds
      obtain ⟨next, shapes⟩ := List.forall_mem_cons.mp shapes
      have joins : link.operator.kind.joins = true := kind ▸ level.joins_operator
      rw [List.flatMap_cons, ← List.append_assoc]
      exact inductionHypothesis (shape.join joins next) kinds shapes

/-- The tokens of a phrase may follow each other. -/
theorem Phrase.shape {name : Rule} {tokens : List Token} {formula : Formula}
    (phrase : Phrase name tokens formula) : Shape tokens := by
  induction phrase with
  | number kind => exact .singleton (kind ▸ rfl) (kind ▸ rfl)
  | argument kind => exact .singleton (kind ▸ rfl) (kind ▸ rfl)
  | group openingKind closingKind _ inside => exact inside.parenthesize openingKind closingKind
  | unaryCall nameKind openingKind closingKind _ input =>
      exact .name nameKind openingKind (input.parenthesize openingKind closingKind)
  | binaryCall nameKind openingKind separatorKind closingKind _ _ first second =>
      have both := first.join (by rw [separatorKind]; rfl) second
      have inner := both.parenthesize openingKind closingKind
      rw [List.append_assoc] at inner
      exact .name nameKind openingKind inner
  | enclosed _ _ inner => exact inner
  | bare _ inner => exact inner
  | prefixed kind _ operand =>
      refine ⟨by simp, operand.lead (Or.inr (Or.inl kind)), by simp [kind, Terminal.opens], ?_⟩
      rw [List.getLast?_cons_of_ne_nil operand.nonempty]
      exact operand.closes
  | chain links _ kinds _ first operands => exact first.links kinds operands

/-- A layout of a sentence is lexed. -/
theorem Sentence.lexed {tokens : List Token} {formula : Formula} {text : List Char}
    (sentence : Sentence tokens formula) (layout : Grammar.Layout tokens text) :
    Grammar.Lexed tokens text := by
  obtain ⟨phrase, ending, rfl, ends, isPhrase⟩ := sentence
  refine layout.lexed ends (isPhrase.shape.order.append (List.isChain_singleton _) ?_)
  intro last back next front
  obtain rfl : ending = next := by simpa using front
  simp [Token.MayPrecede, Terminal.mayPrecede, isPhrase.shape.closes last back, ends]

end Reckon.Formula
