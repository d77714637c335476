import Reckon.Proofs.Judge

/-!
# Full brackets

`Formula.precedence` lists the binary operators by how tightly they bind, by their spelling and
apart from the grammar.  `Formula.Bracketing` puts parentheses around every prefix with its
operand and around every single step of a chain, the steps being taken from the left.  What comes
out is an expression again and has the same value (`Formula.Bracketing.equivalent`), so that a text
with full brackets has the outcome of the text without them (`Judge.value_fullyBracketed`).
-/

namespace Reckon

open Grammar (Layout Level Rule Terminal Token)

namespace Formula

/-! ## Where the brackets stand -/

/-- The binary operators, from the tightest to the loosest; those of one list bind alike. -/
def precedence : List (List String) :=
  [["*", "/", "%"], ["+", "-"], ["<", ">", "<=", ">="], ["==", "!="], ["&"], ["^"], ["|"],
    ["&&"], ["||"]]

/-- The number of lists of tighter operators than the one with this spelling. -/
def looseness? (word : List Char) : Option Nat :=
  precedence.findIdx? (String.ofList word ∈ ·)

def bracketed (tokens : List Token) : List Token :=
  .opening :: (tokens ++ [.closing])

/-- Tokens without and with full brackets.  The number tells how loosely the outermost operation
binds: nothing for a closed form, one for a prefix, and from two on for a binary operator.  A
binary operator takes at its left what binds at least as tightly, and at its right only what binds
more tightly. -/
inductive Bracketing : Nat → List Token → List Token → Prop
  | word {token : Token} :
      token.kind = .number ∨ token.kind = .argument →
      Bracketing 0 [token] [token]
  | group {opening closing : Token} {looseness : Nat} {tokens full : List Token} :
      opening.kind = .openParenthesis →
      closing.kind = .closeParenthesis →
      Bracketing looseness tokens full →
      Bracketing 0 (opening :: (tokens ++ [closing])) (opening :: (full ++ [closing]))
  | unaryCall {name opening closing : Token} {looseness : Nat} {tokens full : List Token} :
      name.kind = .name →
      opening.kind = .openParenthesis →
      closing.kind = .closeParenthesis →
      Bracketing looseness tokens full →
      Bracketing 0 (name :: opening :: (tokens ++ [closing]))
        (name :: opening :: (full ++ [closing]))
  | binaryCall {name opening separator closing : Token} {looseness looseness' : Nat}
      {tokens full others full' : List Token} :
      name.kind = .name →
      opening.kind = .openParenthesis →
      separator.kind = .comma →
      closing.kind = .closeParenthesis →
      Bracketing looseness tokens full →
      Bracketing looseness' others full' →
      Bracketing 0 (name :: opening :: (tokens ++ separator :: (others ++ [closing])))
        (name :: opening :: (full ++ separator :: (full' ++ [closing])))
  | prefixed {operator : Token} {looseness : Nat} {tokens full : List Token} :
      operator.kind = .prefixOperator →
      looseness ≤ 1 →
      Bracketing looseness tokens full →
      Bracketing 1 (operator :: tokens) (bracketed (operator :: full))
  | step {operator : Token} {place looseness looseness' : Nat}
      {tokens full others full' : List Token} :
      looseness? operator.word = some place →
      looseness ≤ place + 2 →
      looseness' < place + 2 →
      Bracketing looseness tokens full →
      Bracketing looseness' others full' →
      Bracketing (place + 2) (tokens ++ operator :: others)
        (bracketed (full ++ operator :: full'))

/-- A text with parentheses around every operation of another text. -/
def FullyBracketed (text full : List Char) : Prop :=
  ∃ looseness tokens bracketed ending, Bracketing looseness tokens bracketed ∧
    ending.kind = .endOfText ∧ Layout (tokens ++ [ending]) text ∧
      Layout (bracketed ++ [ending]) full

/-! ## Precedence and levels -/

/-- The list of precedences and the levels of the grammar agree. -/
theorem looseness?_operator (level : Level) {word : List Char}
    (spelled : level.operator.Spells word) : looseness? word = some level.tighter := by
  have known : ∀ word ∈ level.operator.words, looseness? word = some level.tighter := by
    cases level <;> decide
  refine known word ?_
  cases level <;> exact spelled

/-- An operator with a place in the list is the operator of the level of that place. -/
theorem exists_level_of_looseness? {operator : Token} {place : Nat}
    (listed : looseness? operator.word = some place) :
    ∃ level : Level, level.tighter = place ∧ operator.kind = level.operator := by
  have spelled : ∀ place (bound : place < precedence.length), ∀ spelling ∈ precedence[place],
      ∃ level ∈ Level.all, level.tighter = place ∧ spelling.toList ∈ level.operator.words := by
    decide
  obtain ⟨bound, member, -⟩ := List.findIdx?_eq_some_iff_getElem.mp listed
  obtain ⟨level, -, same, word⟩ := spelled place bound _ (of_decide_eq_true member)
  rw [String.toList_ofList] at word
  have spells : level.operator.Spells operator.word := by cases level <;> exact word
  have kinds := operator.spelled.ahead?_eq.symm.trans spells.ahead?_eq
  exact ⟨level, same, Option.some.inj kinds⟩

/-- The operands of a level stand one place before it, and those of the first one are prefixes. -/
theorem operand_cases (level : Level) :
    (level.operand = .unary ∧ level.tighter = 0) ∨
      ∃ next : Level, level.operand = .chain next ∧ level.tighter = next.tighter + 1 := by
  cases level with
  | multiplicative => exact Or.inl ⟨rfl, rfl⟩
  | _ => exact Or.inr ⟨_, rfl, rfl⟩

theorem eq_of_tighter_eq (level other : Level) (same : level.tighter = other.tighter) :
    level = other := by
  cases level <;> cases other <;> first | rfl | cases same

theorem tighter_le (level : Level) : level.tighter ≤ Level.logicalOr.tighter := by
  cases level <;> decide

/-- What stands at one level stands at every looser one. -/
theorem Phrase.loosen {level other : Level} {tokens : List Token} {formula : Formula}
    (looser : level.tighter ≤ other.tighter) (phrase : Phrase (.chain level) tokens formula) :
    Phrase (.chain other) tokens formula := by
  -- from the looser level down to the one of the phrase
  induction place : other.tighter generalizing other with
  | zero => exact eq_of_tighter_eq level other (by omega) ▸ phrase
  | succ place inductionHypothesis =>
      rcases operand_cases other with ⟨-, first⟩ | ⟨next, operand, above⟩
      · omega
      · by_cases same : level.tighter = other.tighter
        · exact eq_of_tighter_eq level other same ▸ phrase
        · refine .alone ?_
          rw [operand]
          exact inductionHypothesis (by omega) (by omega)

/-! ## Values -/

/-- A further link behind a chain is a step from the value of the chain. -/
theorem Phrase.link {level : Level} {operator : Token} {tokens others : List Token}
    {formula operand : Formula} (kind : operator.kind = level.operator)
    (phrase : Phrase (.chain level) tokens formula)
    (phrase' : Phrase level.operand others operand) :
    ∃ whole, Phrase (.chain level) (tokens ++ operator :: others) whole ∧
      ∀ functions arguments, whole.eval functions arguments =
        formula.eval functions arguments >>= fun value =>
          evalLinks functions arguments value [(String.ofList operator.word, operand)] := by
  cases phrase with
  | @chain _ tokens first links leading kinds operands =>
      let link : Link := { operator, tokens := others, operand }
      refine ⟨joined level first ((links ++ [link]).map Link.entry), ?_,
        fun functions arguments => ?_⟩
      · have all := Phrase.chain (links ++ [link]) leading
          (List.forall_mem_append.mpr ⟨kinds, by simpa [link] using kind⟩)
          (List.forall_mem_append.mpr ⟨operands, by simpa [link] using phrase'⟩)
        simpa [link, Link.all] using all
      · rw [List.map_append, eval_joined, eval_joined, bind_assoc]
        congr 1
        funext value
        exact evalLinks_append value _ _

/-! ## What is bracketed -/

/-- Some tokens are an expression wherever an operation of this looseness may stand, their full
brackets are a closed form, and the formulas of both have the same values. -/
structure Equivalent (looseness : Nat) (tokens full : List Token) (formula closed : Formula) :
    Prop where
  unary : looseness ≤ 1 → Phrase .unary tokens formula
  chain (level : Level) : looseness ≤ level.tighter + 2 → Phrase (.chain level) tokens formula
  atom : Phrase .atom full closed
  same (functions : Function.Table) (arguments : List Float) :
    closed.eval functions arguments = formula.eval functions arguments

variable {looseness : Nat} {tokens full : List Token} {formula closed : Formula}

theorem Equivalent.of_unary (phrase : Phrase .unary tokens formula)
    (atom : Phrase .atom full closed)
    (same : ∀ functions arguments,
      closed.eval functions arguments = formula.eval functions arguments) :
    Equivalent looseness tokens full formula closed where
  unary _ := phrase
  chain level _ := phrase.lift level
  atom := atom
  same := same

theorem Equivalent.inner (equivalent : Equivalent looseness tokens full formula closed)
    (bound : looseness ≤ 10) : Phrase (.chain .logicalOr) tokens formula :=
  equivalent.chain .logicalOr bound

/-- What binds more tightly than the operator of a level is an operand of the level. -/
theorem Equivalent.operand (equivalent : Equivalent looseness tokens full formula closed)
    {level : Level} (tighter : looseness < level.tighter + 2) :
    Phrase level.operand tokens formula := by
  rcases operand_cases level with ⟨operand, first⟩ | ⟨next, operand, above⟩
  · rw [operand]
    exact equivalent.unary (by omega)
  · rw [operand]
    exact equivalent.chain next (by omega)

theorem Phrase.operand_of_atom (level : Level) (phrase : Phrase .atom tokens formula) :
    Phrase level.operand tokens formula := by
  rcases operand_cases level with ⟨operand, -⟩ | ⟨next, operand, -⟩
  · rw [operand]
    exact .bare phrase
  · rw [operand]
    exact .lift next (.bare phrase)

/-- A phrase in parentheses is an operand of every operator. -/
theorem Phrase.bracketed (phrase : Phrase (.chain .logicalOr) tokens formula) :
    Phrase .atom (bracketed tokens) (.group formula) :=
  .enclosed (Or.inl rfl) (.group rfl rfl phrase)

theorem Bracketing.looseness_le (bracketing : Bracketing looseness tokens full) :
    looseness ≤ 10 := by
  cases bracketing with
  | step listed =>
      obtain ⟨bound, -⟩ := List.findIdx?_eq_some_iff_getElem.mp listed
      have : precedence.length = 9 := rfl
      omega
  | _ => omega

/-- Full brackets make closed forms of the same values. -/
theorem Bracketing.equivalent (bracketing : Bracketing looseness tokens full) :
    ∃ formula closed, Equivalent looseness tokens full formula closed := by
  induction bracketing with
  | word kind =>
      rcases kind with kind | kind
      · exact ⟨_, _, .of_unary (.bare (.number kind)) (.number kind) fun _ _ => rfl⟩
      · exact ⟨_, _, .of_unary (.bare (.argument kind)) (.argument kind) fun _ _ => rfl⟩
  | group openingKind closingKind bracketing inside =>
      obtain ⟨formula, closed, inside⟩ := inside
      have open' := Phrase.group openingKind closingKind (inside.inner bracketing.looseness_le)
      have full := Phrase.group openingKind closingKind (.lift _ (.bare inside.atom))
      refine ⟨_, _, .of_unary (.bare (.enclosed (by simp) open')) (.enclosed (by simp) full) ?_⟩
      intro functions arguments
      rw [eval, eval, inside.same]
  | unaryCall nameKind openingKind closingKind bracketing input =>
      obtain ⟨formula, closed, input⟩ := input
      have open' := Phrase.unaryCall nameKind openingKind closingKind
        (input.inner bracketing.looseness_le)
      have full := Phrase.unaryCall nameKind openingKind closingKind
        (.lift _ (.bare input.atom))
      refine ⟨_, _, .of_unary (.bare (.enclosed (by simp) open')) (.enclosed (by simp) full) ?_⟩
      intro functions arguments
      simp only [eval, evalAll, input.same]
  | binaryCall nameKind openingKind separatorKind closingKind bracketing bracketing' first second =>
      obtain ⟨formula, closed, first⟩ := first
      obtain ⟨formula', closed', second⟩ := second
      have open' := Phrase.binaryCall nameKind openingKind separatorKind closingKind
        (first.inner bracketing.looseness_le) (second.inner bracketing'.looseness_le)
      have full := Phrase.binaryCall nameKind openingKind separatorKind closingKind
        (.lift _ (.bare first.atom)) (.lift _ (.bare second.atom))
      refine ⟨_, _, .of_unary (.bare (.enclosed (by simp) open')) (.enclosed (by simp) full) ?_⟩
      intro functions arguments
      simp only [eval, evalAll, first.same, second.same]
  | prefixed kind bound _ operand =>
      obtain ⟨formula, closed, operand⟩ := operand
      have prefixed := Phrase.prefixed kind (operand.unary bound)
      have full := Phrase.bracketed (.lift _ (.prefixed kind (.bare operand.atom)))
      refine ⟨_, _, .of_unary prefixed full ?_⟩
      intro functions arguments
      simp only [eval, operand.same]
  | @step operator _ _ _ _ _ _ _ listed atMost below _ _ left right =>
      obtain ⟨first, closed, left⟩ := left
      obtain ⟨second, closed', right⟩ := right
      obtain ⟨level, rfl, kind⟩ := exists_level_of_looseness? listed
      obtain ⟨whole, phrase, value⟩ :=
        Phrase.link kind (left.chain level atMost) (right.operand below)
      obtain ⟨inside, phrase', value'⟩ :=
        Phrase.link kind (.lift level (.bare left.atom)) (.operand_of_atom level right.atom)
      have full := Phrase.bracketed (phrase'.loosen (tighter_le level))
      refine ⟨whole, .group inside, ?_, fun next bound => ?_, full, ?_⟩
      · omega
      · exact phrase.loosen (by omega)
      · intro functions arguments
        rw [eval, value', value, left.same]
        simp only [evalLinks, right.same]

/-! ## Everything can be bracketed -/

/-- How loosely the outermost operation of a rule may bind. -/
def loosest : Rule → Nat
  | .chain level => level.tighter + 2
  | .unary => 1
  | _ => 0

theorem loosest_operand_lt (level : Level) : loosest level.operand < level.tighter + 2 := by
  cases level <;> decide

/-- The steps of a chain are bracketed one after the other. -/
theorem exists_bracketing_links {level : Level} {links : List Link}
    (kinds : ∀ link ∈ links, link.operator.kind = level.operator)
    (operands : ∀ link ∈ links, ∃ looseness full, looseness ≤ loosest level.operand ∧
      Bracketing looseness link.tokens full)
    (bound : looseness ≤ level.tighter + 2) (bracketing : Bracketing looseness tokens full) :
    ∃ looseness full, looseness ≤ level.tighter + 2 ∧
      Bracketing looseness (tokens ++ links.flatMap Link.all) full := by
  induction links generalizing looseness tokens full with
  | nil => exact ⟨looseness, full, bound, by simpa using bracketing⟩
  | cons link links inductionHypothesis =>
      obtain ⟨kind, kinds⟩ := List.forall_mem_cons.mp kinds
      obtain ⟨⟨looseness', full', bound', next⟩, operands⟩ := List.forall_mem_cons.mp operands
      have listed := looseness?_operator level (kind ▸ link.operator.spelled)
      have below := Nat.lt_of_le_of_lt bound' (loosest_operand_lt level)
      rw [List.flatMap_cons, ← List.append_assoc]
      exact inductionHypothesis kinds operands (Nat.le_refl _)
        (.step listed bound below bracketing next)

/-- By induction on phrases: every part has a form with all brackets. -/
theorem Phrase.exists_bracketing {name : Rule} (phrase : Phrase name tokens formula) :
    ∃ looseness full, looseness ≤ loosest name ∧ Bracketing looseness tokens full := by
  induction phrase with
  | number kind => exact ⟨_, _, Nat.zero_le _, .word (Or.inl kind)⟩
  | argument kind => exact ⟨_, _, Nat.zero_le _, .word (Or.inr kind)⟩
  | group openingKind closingKind _ inside =>
      obtain ⟨_, _, -, inside⟩ := inside
      exact ⟨_, _, Nat.zero_le _, .group openingKind closingKind inside⟩
  | unaryCall nameKind openingKind closingKind _ input =>
      obtain ⟨_, _, -, input⟩ := input
      exact ⟨_, _, Nat.zero_le _, .unaryCall nameKind openingKind closingKind input⟩
  | binaryCall nameKind openingKind separatorKind closingKind _ _ first second =>
      obtain ⟨_, _, -, first⟩ := first
      obtain ⟨_, _, -, second⟩ := second
      exact ⟨_, _, Nat.zero_le _,
        .binaryCall nameKind openingKind separatorKind closingKind first second⟩
  | enclosed listed _ inner =>
      obtain ⟨looseness, full, bound, inner⟩ := inner
      refine ⟨looseness, full, ?_, inner⟩
      rcases listed with rfl | rfl | rfl <;> exact bound
  | bare _ inner =>
      obtain ⟨looseness, full, bound, inner⟩ := inner
      exact ⟨looseness, full, Nat.le_succ_of_le bound, inner⟩
  | prefixed kind _ operand =>
      obtain ⟨looseness, full, bound, operand⟩ := operand
      exact ⟨1, _, Nat.le_refl 1, .prefixed kind bound operand⟩
  | @chain level _ _ links _ kinds _ first operands =>
      obtain ⟨looseness, full, bound, first⟩ := first
      have below := Nat.lt_of_le_of_lt bound (loosest_operand_lt level)
      exact exists_bracketing_links kinds operands (Nat.le_of_lt below) first

/-- A text and its full brackets have formulas of the same values. -/
theorem FullyBracketed.derivations {text full : List Char} (brackets : FullyBracketed text full) :
    ∃ tokens formula others closed, Derivation text tokens formula ∧
      Derivation full others closed ∧ ∀ functions arguments,
        closed.eval functions arguments = formula.eval functions arguments := by
  obtain ⟨looseness, tokens, bracketed, ending, bracketing, ends, layout, layout'⟩ := brackets
  obtain ⟨formula, closed, equivalent⟩ := bracketing.equivalent
  have one := derivation_of_phrase ends (equivalent.inner bracketing.looseness_le) layout
  have other := derivation_of_phrase ends (.lift _ (.bare equivalent.atom)) layout'
  exact ⟨_, formula, _, closed, one, other, equivalent.same⟩

theorem Derivation.exists_fullyBracketed {text : List Char}
    (derivation : Derivation text tokens formula) : ∃ full, FullyBracketed text full := by
  obtain ⟨phrase, ending, rfl, ends, isPhrase⟩ := derivation.sentence
  obtain ⟨looseness, full, -, bracketing⟩ := isPhrase.exists_bracketing
  exact ⟨_, looseness, phrase, full, ending, bracketing, ends, derivation.1, .of_words _⟩

end Formula

/-! ## Judging -/

namespace Judge

open Formula (Bracketing Derivation FullyBracketed bracketed)

/-- A text with a formula has full brackets.  With them it has a formula, too, and the same
outcome as without: the same value, or the same fault. -/
theorem value_fullyBracketed (judge : Judge) (text : String) :
    ((∃ tokens formula, Derivation text.toList tokens formula) →
      ∃ full : String, FullyBracketed text.toList full.toList) ∧
    ∀ full : String, FullyBracketed text.toList full.toList →
      (∃ tokens formula, Derivation full.toList tokens formula) ∧
      ∀ arguments, judge.reader.Admits text → judge.reader.Admits full →
        judge.value full arguments = judge.value text arguments := by
  refine ⟨?_, fun full brackets => ?_⟩
  · rintro ⟨tokens, formula, derivation⟩
    obtain ⟨full, brackets⟩ := derivation.exists_fullyBracketed
    exact ⟨String.ofList full, by rwa [String.toList_ofList]⟩
  · obtain ⟨tokens, formula, others, closed, one, other, same⟩ := brackets.derivations
    refine ⟨⟨others, closed, other⟩, fun arguments admits admits' => ?_⟩
    rw [value_of_read (Reader.read_of_admits admits one),
      value_of_read (Reader.read_of_admits admits' other), same]

def digit (c : Char) (decimal : Text.isDecimalDigit c = true) : Token :=
  { kind := .number, word := [c], spelled := Or.inl ⟨by simp, by simpa using decimal⟩ }

def complement : Token :=
  { kind := .prefixOperator, word := ['~'], spelled := by simp [Terminal.Spells, Terminal.words] }

def minus : Token :=
  { kind := .sumOperator, word := ['-'], spelled := by simp [Terminal.Spells, Terminal.words] }

def times : Token :=
  { kind := .productOperator, word := ['*'], spelled := by simp [Terminal.Spells, Terminal.words] }

def argumentA : Token :=
  { kind := .argument, word := ['A'], spelled := Grammar.Terminal.spells_argument_A }

/-- The prefix binds most tightly, then the product, and the differences are taken from the
left. -/
theorem fullyBracketed_differences :
    FullyBracketed "~A-1*2-3".toList "(((~A)-(1*2))-3)".toList := by
  let one := digit '1' (by decide)
  let two := digit '2' (by decide)
  let three := digit '3' (by decide)
  have word {token : Token} (kind : token.kind = .number ∨ token.kind = .argument) :
      Bracketing 0 [token] [token] :=
    .word kind
  have prefixed : Bracketing 1 [complement, argumentA] (bracketed [complement, argumentA]) :=
    .prefixed rfl (Nat.zero_le 1) (word (Or.inr rfl))
  have product : Bracketing 2 ([one] ++ times :: [two]) (bracketed ([one] ++ times :: [two])) :=
    .step (by decide) (by decide) (by decide) (word (Or.inl rfl)) (word (Or.inl rfl))
  have first := Bracketing.step (by decide : Formula.looseness? minus.word = some 1) (by decide)
    (by decide) prefixed product
  have second := Bracketing.step (by decide : Formula.looseness? minus.word = some 1) (by decide)
    (by decide) first (@word three (Or.inl rfl))
  exact ⟨_, _, _, .ending, second, rfl, Layout.of_words _, Layout.of_words _⟩

theorem value_differences :
    (∃ full : String, FullyBracketed "~A-1*2-3".toList full.toList) ∧
      Judge.standard.reader.Admits "~A-1*2-3" ∧
      Judge.standard.reader.Admits "(((~A)-(1*2))-3)" ∧
      Judge.standard.value "(((~A)-(1*2))-3)" [Double.one] =
        Judge.standard.value "~A-1*2-3" [Double.one] := by
  obtain ⟨_, _, _, _, derivation, derivation', -⟩ := fullyBracketed_differences.derivations
  have admits : Judge.standard.reader.Admits "~A-1*2-3" :=
    Reader.admits_of_shallow derivation (by decide) (by decide)
  have admits' : Judge.standard.reader.Admits "(((~A)-(1*2))-3)" :=
    Reader.admits_of_shallow derivation' (by decide) (by decide)
  obtain ⟨exist, same⟩ := value_fullyBracketed Judge.standard "~A-1*2-3"
  obtain ⟨-, equal⟩ := same "(((~A)-(1*2))-3)" fullyBracketed_differences
  exact ⟨exist ⟨_, _, derivation⟩, admits, admits', equal [Double.one] admits admits'⟩

end Judge

end Reckon
