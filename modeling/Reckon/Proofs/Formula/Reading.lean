import Reckon.Formula.Reader
import Reckon.Proofs.Formula.Completeness
import Reckon.Proofs.Formula.Depth
import Reckon.Proofs.Formula.Symbols
import Reckon.Proofs.Grammar.Memory

/-!
# Readers read the grammar

A derivation lays a text out as tokens, derives them from the grammar without any order, and
stands for a formula.  A reader whose limit allows the nesting of a text reads a formula off it
if and only if the text has a derivation of that formula (`Reader.reads_grammar`), and the limits
that allow a formula are those from its depth on (`Reader.guard_exact`).  What is said here
leaves aside texts on which reading is given up.
-/

namespace Reckon

open Formula (Phrase Sentence Symbol ofTree?)
open Grammar (isBlank Layout Lexed Level Nesting ParseTree Peg Result Rule Terminal Token)

namespace Formula

/-! ## Derivations -/

/-- A text is laid out as tokens which the grammar derives, with any alternative of a choice and
any number of repetitions, and the tree of the derivation stands for a formula. -/
def Derivation (text : List Char) (tokens : List Token) (formula : Formula) : Prop :=
  Layout tokens text ∧
    ∃ trees, Rule.formula.body.Derives tokens trees ∧
      ofTree? (.node .formula trees) = some formula

variable {text : List Char} {tokens : List Token} {formula : Formula}

theorem sentence_of_derives {trees : List ParseTree}
    (derives : Rule.formula.body.Derives tokens trees) :
    ∃ formula, ofTree? (.node .formula trees) = some formula ∧ Sentence tokens formula :=
  stands_of_derives derives

/-- The tokens of a derivation are a phrase and the end of the text. -/
theorem Derivation.sentence (derivation : Derivation text tokens formula) :
    Sentence tokens formula := by
  obtain ⟨-, trees, derives, made⟩ := derivation
  obtain ⟨formula', made', sentence⟩ := sentence_of_derives derives
  rw [made] at made'
  cases made'
  exact sentence

theorem Derivation.lexed (derivation : Derivation text tokens formula) : Lexed tokens text :=
  derivation.sentence.lexed derivation.1

/-- The depth that is told from the characters is that of the formula. -/
theorem Derivation.depth_eq (derivation : Derivation text tokens formula) :
    Nesting.depth text = formula.depth :=
  derivation.sentence.depth_eq derivation.1

/-- Soundness: what a run matches has a derivation. -/
theorem derivation_of_matches {spare : Nat} {trees : List ParseTree} {rest : Cursor}
    (matched : Rule.formula.body.Matches spare (.start text) trees rest) :
    ∃ tokens formula, Derivation text tokens formula ∧
      ofTree? (.node .formula trees) = some formula := by
  obtain ⟨tokens, read, derives, layout, split⟩ := matched.derives
  obtain ⟨_, place, _, -, -, ended⟩ := matched.of_sequence
  have nothing : rest.ahead = [] := ended.ahead_of_endOfText
  have whole : text = read := by
    rw [nothing, List.append_nil] at split
    exact split
  obtain ⟨formula, made, -⟩ := sentence_of_derives derives
  exact ⟨tokens, formula, ⟨whole ▸ layout, trees, derives, made⟩, made⟩

theorem derivation_of_sentence (sentence : Sentence tokens formula)
    (layout : Layout tokens text) : Derivation text tokens formula := by
  have lexed := sentence.lexed layout
  -- the text is read, what is read is derived, and the text is lexed in one way only
  obtain ⟨trees, rest, made, matched⟩ := sentence.readable lexed (Nat.le_refl formula.depth)
  obtain ⟨others, formula', derivation, made'⟩ := derivation_of_matches matched
  rw [made] at made'
  cases made'
  rw [lexed.unique derivation.lexed]
  exact derivation

/-- A phrase that is laid out in front of the end of the text has a derivation. -/
theorem derivation_of_phrase {ending : Token} (ends : ending.kind = .endOfText)
    (phrase : Phrase (.chain .logicalOr) tokens formula)
    (layout : Layout (tokens ++ [ending]) text) :
    Derivation text (tokens ++ [ending]) formula :=
  derivation_of_sentence ⟨tokens, ending, rfl, ends, phrase⟩ layout

/-- A text has at most one derivation, and at most one formula. -/
theorem Derivation.unique {others : List Token} {other : Formula}
    (one : Derivation text tokens formula) (two : Derivation text others other) :
    tokens = others ∧ formula = other := by
  refine ⟨one.lexed.unique two.lexed, ?_⟩
  obtain ⟨trees, place, made, matched⟩ :=
    one.sentence.readable one.lexed (Nat.le_max_left formula.depth other.depth)
  obtain ⟨trees', place', made', matched'⟩ :=
    two.sentence.readable two.lexed (Nat.le_max_right formula.depth other.depth)
  obtain ⟨expected, run⟩ := matched
  obtain ⟨expected', run'⟩ := matched'
  rw [run, Result.matched.injEq] at run'
  obtain ⟨rfl, -, -⟩ := run'
  rw [made] at made'
  exact Option.some.inj made'

/-- Behind the symbols of the formula stands the end of the text. -/
theorem Derivation.symbols (derivation : Derivation text tokens formula) :
    tokens.map Symbol.ofToken = formula.symbols ++ [.word ""] := by
  obtain ⟨phrase, ending, rfl, ends, isPhrase⟩ := derivation.sentence
  have last : Symbol.ofToken ending = .word "" :=
    Symbol.ofToken_of_words ends rfl (fun _ => Iff.rfl) (by simp)
  rw [List.map_append, List.map_singleton, isPhrase.symbols, last]

/-- An argument name alone is a formula. -/
theorem derivation_of_argument {word : List Char} (spelled : Terminal.argument.Spells word) :
    ∃ tokens, Derivation word tokens (.argument (String.ofList word)) := by
  let token : Token := { kind := .argument, word, spelled }
  let ending : Token := { kind := .endOfText, word := [], spelled := List.mem_singleton_self _ }
  have sentence : Sentence [token, ending] (.argument (String.ofList word)) :=
    ⟨[token], ending, rfl, rfl, Phrase.lift _ (.bare (.argument rfl))⟩
  have layout : Layout [token, ending] ([] ++ token.word ++ ([] ++ ending.word ++ [])) :=
    .cons token (by simp) (.cons ending (by simp) .nil)
  have same : [] ++ token.word ++ ([] ++ ending.word ++ []) = word := List.append_nil word
  rw [same] at layout
  exact ⟨_, derivation_of_sentence sentence layout⟩

/-- The tokens of `!(A)`. -/
def negatedGroup : List Token :=
  [{ kind := .prefixOperator, word := ['!'], spelled := by simp [Terminal.Spells, Terminal.words] },
    { kind := .openParenthesis, word := ['('], spelled := List.mem_singleton_self _ },
    { kind := .argument, word := ['A'], spelled := ⟨by simp, by simp [Grammar.isArgumentLetter]⟩ },
    { kind := .closeParenthesis, word := [')'], spelled := List.mem_singleton_self _ },
    { kind := .endOfText, word := [], spelled := List.mem_singleton_self _ }]

theorem sentence_negatedGroup :
    Sentence negatedGroup (.prefixed "!" (.group (.argument "A"))) := by
  refine ⟨negatedGroup.dropLast, _, rfl, rfl, Phrase.lift _ (.prefixed rfl (.bare ?_))⟩
  exact .enclosed (Or.inl rfl) (.group rfl rfl (Phrase.lift _ (.bare (.argument rfl))))

/-- Blanks are left out in one layout of `!(A)` and stand in the other one. -/
theorem derivation_negatedGroup :
    Derivation "!(A)".toList negatedGroup (.prefixed "!" (.group (.argument "A"))) ∧
      Derivation " ! (\tA )".toList negatedGroup (.prefixed "!" (.group (.argument "A"))) := by
  constructor
  · refine derivation_of_sentence sentence_negatedGroup ?_
    exact Layout.of_parts ([[], [], [], [], []].zip negatedGroup) (by simp [negatedGroup])
  · refine derivation_of_sentence sentence_negatedGroup ?_
    exact Layout.of_parts ([[' '], [' '], ['\t'], [' '], []].zip negatedGroup)
      (by simp [negatedGroup, isBlank])

end Formula

/-! ## Readers -/

namespace Reader

open Formula (Derivation)

variable {reader : Reader} {text : List Char}

/-- With and without a memory a reader finds what the grammar settles on. -/
theorem settles_result (roomy : reader.result text ≠ .exhausted) :
    Rule.formula.body.Settles (.start text) (reader.result text) := by
  unfold Reader.result at roomy ⊢
  dsimp only at roomy ⊢
  split
  · rename_i packrat
    rw [if_pos packrat] at roomy
    exact Peg.settles_runWithMemory roomy
  · rename_i plain
    rw [if_neg plain] at roomy
    exact ⟨reader.capacity, rfl, roomy⟩

/-- Reading gets through whenever the plain run does. -/
theorem result_eq_run
    (given : Rule.formula.body.run reader.capacity (.start text) ≠ .exhausted) :
    reader.result text = Rule.formula.body.run reader.capacity (.start text) := by
  unfold Reader.result
  dsimp only
  split
  · exact Peg.runWithMemory_eq given
  · rfl

theorem derivation_of_result {trees : List ParseTree} {rest : Cursor}
    {expected : Grammar.Expected} (result : reader.result text = .matched trees rest expected) :
    ∃ tokens formula, Derivation text tokens formula ∧
      ofTree? (.node .formula trees) = some formula := by
  have roomy : reader.result text ≠ .exhausted := by simp [result]
  obtain ⟨spare, run, -⟩ := settles_result roomy
  exact Formula.derivation_of_matches ⟨expected, run.trans result⟩

/-- Completeness: with room enough a text with a derivation is matched. -/
theorem result_of_derivation {tokens : List Token} {formula : Formula}
    (roomy : reader.result text ≠ .exhausted) (derivation : Derivation text tokens formula) :
    ∃ trees rest expected, reader.result text = .matched trees rest expected ∧
      ofTree? (.node .formula trees) = some formula := by
  obtain ⟨trees, rest, made, matched⟩ :=
    derivation.sentence.readable derivation.lexed (Nat.le_refl formula.depth)
  obtain ⟨expected, settled⟩ := matched.settles
  exact ⟨trees, rest, expected, (settles_result roomy).unique settled, made⟩

/-- A formula that is not deeper than the capacity is never given up. -/
theorem roomy_of_derivation {tokens : List Token} {formula : Formula}
    (derivation : Derivation text tokens formula) (room : formula.depth ≤ reader.capacity) :
    reader.result text ≠ .exhausted := by
  obtain ⟨trees, rest, -, expected, run⟩ :=
    derivation.sentence.readable derivation.lexed room
  rw [result_eq_run (by simp [run]), run]
  simp

/-- The tree that is read is made into the formula of the derivation. -/
theorem parseTree_of_derivation {tokens : List Token} {formula : Formula}
    (roomy : reader.result text ≠ .exhausted) (derivation : Derivation text tokens formula) :
    ∃ tree, reader.parseTree text = .ok tree ∧ ofTree? tree = some formula := by
  obtain ⟨trees, rest, expected, result, made⟩ := result_of_derivation roomy derivation
  exact ⟨.node .formula trees, by rw [parseTree, result], made⟩

/-- Whatever is read has a derivation. -/
theorem derivation_of_parseTree {tree : ParseTree} (parsed : reader.parseTree text = .ok tree) :
    ∃ tokens formula, Derivation text tokens formula ∧ ofTree? tree = some formula := by
  rw [parseTree] at parsed
  cases result : reader.result text with
  | matched trees rest expected =>
      rw [result] at parsed
      cases parsed
      exact derivation_of_result result
  | failed expected => simp [result] at parsed
  | exhausted => simp [result] at parsed

/-- A text without a derivation is misread. -/
theorem parseTree_of_no_derivation (roomy : reader.result text ≠ .exhausted)
    (none : ¬∃ tokens formula, Derivation text tokens formula) :
    ∃ misreading, reader.parseTree text = .error (.misread misreading) := by
  rw [parseTree]
  cases result : reader.result text with
  | matched trees rest expected =>
      obtain ⟨tokens, formula, derivation, -⟩ := derivation_of_result result
      exact absurd ⟨tokens, formula, derivation⟩ none
  | failed expected => exact ⟨_, rfl⟩
  | exhausted => exact absurd result roomy

/-! ## The guard -/

/-- Behind the guard a text is read and built. -/
theorem read_of_shallow {text : String} (shallow : Nesting.depth text.toList ≤ reader.limit) :
    reader.read text = reader.parseTree text.toList >>= Formula.build reader.limit 0 := by
  have passed : ¬reader.limit < Nesting.depth text.toList := by omega
  simp only [read, passed, if_false]

/-- The guard refuses a text before anything of it is read. -/
theorem read_of_deep {text : String} (deep : reader.limit < Nesting.depth text.toList) :
    reader.read text = .error (.tooDeep (Nesting.depth text.toList) reader.limit) := by
  simp only [read, deep, if_true]
  rfl

/-- The builder's own guard never refuses what the guard on the text lets through. -/
theorem build_of_shallow {text : String} {tree : ParseTree} {limit : Int}
    (parsed : reader.parseTree text.toList = .ok tree)
    (shallow : Nesting.depth text.toList ≤ limit) :
    ∃ formula, ofTree? tree = some formula ∧ Formula.build limit 0 tree = .ok formula := by
  obtain ⟨tokens, formula, derivation, made⟩ := derivation_of_parseTree parsed
  refine ⟨formula, made, ?_⟩
  rw [derivation.depth_eq] at shallow
  rw [Formula.build_eq_bounded limit 0 made, Formula.bounded, if_pos (by omega)]

/-- A text with a derivation is read unless it is deeper than the limit, provided that the room
lasts. -/
theorem read_of_derivation {text : String} {tokens : List Token} {formula : Formula}
    (roomy : reader.result text.toList ≠ .exhausted)
    (derivation : Derivation text.toList tokens formula) :
    reader.read text =
      if formula.depth ≤ reader.limit then
        .ok formula
      else
        .error (.tooDeep formula.depth reader.limit) := by
  have depth := derivation.depth_eq
  split
  · rename_i fits
    have shallow : Nesting.depth text.toList ≤ reader.limit := by rwa [depth]
    obtain ⟨tree, parsed, made⟩ := parseTree_of_derivation roomy derivation
    obtain ⟨formula', made', built⟩ := build_of_shallow parsed shallow
    rw [made] at made'
    cases made'
    rw [read_of_shallow shallow, parsed]
    exact built
  · rename_i exceeds
    rw [read_of_deep (by omega), depth]

/-- A reader does not find a text nested too deep. -/
def Admits (reader : Reader) (text : String) : Prop :=
  ∀ depth limit, reader.read text ≠ .error (.tooDeep depth limit)

/-- Where limit and room suffice, the formula of a derivation is what is read. -/
theorem read_of_admits {text : String} {tokens : List Token} {formula : Formula}
    (admits : reader.Admits text) (derivation : Derivation text.toList tokens formula) :
    reader.read text = .ok formula := by
  by_cases deep : reader.limit < Nesting.depth text.toList
  · exact absurd (read_of_deep deep) (admits _ _)
  · have shallow : Nesting.depth text.toList ≤ reader.limit := by omega
    by_cases given : reader.result text.toList = .exhausted
    · have exhausted : reader.read text = .error (reader.tooDeep text.toList) := by
        rw [read_of_shallow shallow, parseTree, given]
        rfl
      exact absurd exhausted (admits _ _)
    · rw [read_of_derivation given derivation, if_pos]
      rwa [← derivation.depth_eq]

/-- Room for the depth of a text is room for its reading. -/
theorem admits_of_shallow {text : String} {tokens : List Token} {formula : Formula}
    (derivation : Derivation text.toList tokens formula)
    (shallow : Nesting.depth text.toList ≤ reader.limit)
    (room : Nesting.depth text.toList ≤ reader.capacity) : reader.Admits text := by
  rw [derivation.depth_eq] at shallow room
  intro depth limit
  rw [read_of_derivation (roomy_of_derivation derivation room) derivation, if_pos shallow]
  simp

/-- A text is read as a formula that it has a derivation of, or it is misread or nested too
deep. -/
theorem read_cases (reader : Reader) (text : String) :
    (∃ tokens formula, Derivation text.toList tokens formula ∧
      reader.read text = .ok formula) ∨
    (∃ misreading, reader.read text = .error (.misread misreading)) ∨
    ∃ depth limit, reader.read text = .error (.tooDeep depth limit) := by
  by_cases deep : reader.limit < Nesting.depth text.toList
  · exact Or.inr (Or.inr ⟨_, _, read_of_deep deep⟩)
  · have shallow : Nesting.depth text.toList ≤ reader.limit := by omega
    rw [read_of_shallow shallow]
    cases result : reader.result text.toList with
    | matched trees rest expected =>
        have parsed : reader.parseTree text.toList = .ok (.node .formula trees) := by
          rw [parseTree, result]
        obtain ⟨tokens, formula, derivation, made⟩ := derivation_of_parseTree parsed
        obtain ⟨formula', made', built⟩ := build_of_shallow parsed shallow
        rw [made] at made'
        cases made'
        rw [parsed]
        exact Or.inl ⟨tokens, formula, derivation, built⟩
    | failed expected =>
        rw [parseTree, result]
        exact Or.inr (Or.inl ⟨_, rfl⟩)
    | exhausted =>
        rw [parseTree, result]
        exact Or.inr (Or.inr ⟨_, _, rfl⟩)

/-! ## What readers read -/

/-- The guard on the text is exact: it measures the depth of the formula, so that the limits
that allow a text are those from this depth on, all with the same formula, and the fault of the
others tells the least of them.  The builder's own guard never comes to bear. -/
theorem guard_exact (reader : Reader) (text : String) (tree : ParseTree)
    (parsed : reader.parseTree text.toList = .ok tree) :
    ∃ formula, ofTree? tree = some formula ∧
      Nesting.depth text.toList = formula.depth ∧
      (∀ limit : Int, ({ reader with limit } : Reader).read text =
        if formula.depth ≤ limit then
          .ok formula
        else
          .error (.tooDeep formula.depth limit)) ∧
      (∀ limit : Int, (∃ other, ({ reader with limit } : Reader).read text = .ok other) ↔
        formula.depth ≤ limit) ∧
      ∀ limit : Int, Nesting.depth text.toList ≤ limit →
        Formula.build limit 0 tree = .ok formula := by
  obtain ⟨tokens, formula, derivation, made⟩ := derivation_of_parseTree parsed
  have roomy : reader.result text.toList ≠ .exhausted := by
    intro given
    rw [parseTree, given] at parsed
    cases parsed
  have outcome (limit : Int) : ({ reader with limit } : Reader).read text =
      if formula.depth ≤ limit then .ok formula else .error (.tooDeep formula.depth limit) :=
    @read_of_derivation { reader with limit } text tokens formula roomy derivation
  refine ⟨formula, made, derivation.depth_eq, outcome, fun limit => ⟨?_, fun fits => ?_⟩,
    fun limit fits => ?_⟩
  · rintro ⟨other, read⟩
    by_contra exceeds
    rw [outcome, if_neg exceeds] at read
    cases read
  · exact ⟨formula, by rw [outcome, if_pos fits]⟩
  · obtain ⟨formula', made', built⟩ := build_of_shallow parsed fits
    rw [made] at made'
    cases made'
    exact built

/-- The least limit that allows `!(A)` is two. -/
theorem guard_negatedGroup :
    ∃ tree, ({ limit := 16 } : Reader).parseTree "!(A)".toList = .ok tree ∧
      ({ limit := 2 } : Reader).read "!(A)" = .ok (.prefixed "!" (.group (.argument "A"))) ∧
      ({ limit := 1 } : Reader).read "!(A)" = .error (.tooDeep 2 1) := by
  obtain ⟨derivation, -⟩ := Formula.derivation_negatedGroup
  have roomy := @roomy_of_derivation { limit := 16 } _ _ _ derivation (by decide)
  obtain ⟨tree, parsed, made⟩ := parseTree_of_derivation roomy derivation
  obtain ⟨formula, made', -, outcome, -, -⟩ := guard_exact { limit := 16 } "!(A)" tree parsed
  rw [made] at made'
  cases made'
  exact ⟨tree, parsed, outcome 2, outcome 1⟩

end Reader

end Reckon
