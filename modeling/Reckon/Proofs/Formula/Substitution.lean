import Reckon.Proofs.Grammar.Balance
import Reckon.Proofs.Formula.Bracketing

/-!
# Parts in parentheses

The tokens of a phrase are balanced, so that an expression in parentheses somewhere in a text is
all of one group or the only input of one call, whatever stands around it.  Another expression in
its place leaves all constructs around it as they are (`Formula.Phrase.exchanges`), and if it has
the same value, so has the whole text (`Judge.value_substituted`).
-/

namespace Reckon

open Grammar (Balanced Layout Level Lexed Rule Terminal Token levelBehind levelBehindAll)

namespace Formula

/-! ## Constructs around a formula -/

/-- One construct around a formula, with its other parts. -/
inductive Frame where
  | group
  | input (name : String) (before behind : List Formula)
  | operand (operator : String)
  | front (level : String) (links : List (String × Formula))
  | link (level : String) (first : Formula) (before : List (String × Formula)) (operator : String)
      (behind : List (String × Formula))

def Frame.fill : Frame → Formula → Formula
  | group, part => .group part
  | input name before behind, part => .call name (before ++ part :: behind)
  | operand operator, part => .prefixed operator part
  | front level links, part => .chain level part links
  | link level first before operator behind, part =>
      .chain level first (before ++ (operator, part) :: behind)

/-- A group, or a call that has no other inputs. -/
def Frame.Encloses (frame : Frame) : Prop :=
  frame = .group ∨ ∃ name, frame = .input name [] []

/-- A formula with some constructs around it, the innermost one first. -/
def surround (frames : List Frame) (part : Formula) : Formula :=
  frames.foldl (fun part frame => frame.fill part) part

theorem surround_append (frames others : List Frame) (part : Formula) :
    surround (frames ++ others) part = surround others (surround frames part) :=
  List.foldl_append

section Values

variable {functions : Function.Table} {arguments : List Float} {part other : Formula}

theorem evalAll_replaced (before behind : List Formula)
    (same : part.eval functions arguments = other.eval functions arguments) :
    evalAll functions arguments (before ++ part :: behind) =
      evalAll functions arguments (before ++ other :: behind) := by
  induction before with
  | nil => rw [List.nil_append, List.nil_append, evalAll, evalAll, same]
  | cons input before inductionHypothesis =>
      rw [List.cons_append, List.cons_append, evalAll, evalAll, inductionHypothesis]

/-- A construct only sees the value of a part. -/
theorem Frame.eval_fill (frame : Frame)
    (same : part.eval functions arguments = other.eval functions arguments) :
    (frame.fill part).eval functions arguments = (frame.fill other).eval functions arguments := by
  cases frame with
  | group => rw [fill, fill, eval, eval, same]
  | input name before behind =>
      rw [fill, fill, eval, eval, evalAll_replaced before behind same]
  | operand operator => rw [fill, fill, eval, eval, same]
  | front level links => rw [fill, fill, eval, eval, same]
  | link level first before operator behind =>
      rw [fill, fill, eval, eval]
      congr 1
      funext value
      rw [evalLinks_append, evalLinks_append]
      congr 1
      funext value
      rw [evalLinks, evalLinks, same]

/-- Frames evaluate alike around parts that evaluate alike. -/
theorem eval_surround (frames : List Frame)
    (same : part.eval functions arguments = other.eval functions arguments) :
    (surround frames part).eval functions arguments =
      (surround frames other).eval functions arguments := by
  induction frames generalizing part other with
  | nil => exact same
  | cons frame frames inductionHypothesis => exact inductionHypothesis (frame.eval_fill same)

end Values

/-! ## Phrases are balanced -/

variable {name outer : Rule} {tokens inside before behind : List Token} {formula : Formula}
  {opening closing : Token}

/-- Each parenthesis of a phrase has its partner in the phrase. -/
theorem Phrase.balanced (phrase : Phrase name tokens formula) : Balanced tokens := by
  have still {token : Token} {kinds : List Terminal} (kind : token.kind ∈ kinds)
      (known : ∀ kind ∈ kinds, levelBehind 0 kind = some 0) {tokens : List Token}
      (balanced : Balanced tokens) : Balanced (token :: tokens) :=
    .cons (known _ kind) balanced
  have words : ∀ kind ∈ [Terminal.number, .argument, .name, .prefixOperator],
      levelBehind 0 kind = some 0 := by
    decide
  induction phrase with
  | number kind => exact still (by simp [kind]) words rfl
  | argument kind => exact still (by simp [kind]) words rfl
  | group openingKind closingKind _ inside =>
      exact .parenthesize openingKind closingKind (inside.levelBehindAll_eq 1)
  | unaryCall nameKind openingKind closingKind _ input =>
      have parenthesized := Balanced.parenthesize openingKind closingKind
        (input.levelBehindAll_eq 1)
      exact still (by simp [nameKind]) words parenthesized
  | @binaryCall _ _ separator _ tokens others _ _ nameKind openingKind separatorKind closingKind _ _
      first second =>
      have both : levelBehindAll 1 (tokens ++ separator :: others) = some 1 := by
        simp [first.levelBehindAll_eq, second.levelBehindAll_eq, separatorKind, levelBehind]
      have parenthesized := Balanced.parenthesize openingKind closingKind both
      rw [List.append_assoc] at parenthesized
      exact still (by simp [nameKind]) words parenthesized
  | enclosed _ _ inner => exact inner
  | bare _ inner => exact inner
  | prefixed kind _ operand => exact still (by simp [kind]) words operand
  | @chain level _ _ links _ kinds _ first operands =>
      have operators (level : Level) : levelBehind 0 level.operator = some 0 := by
        cases level <;> rfl
      have each : ∀ link ∈ links, Balanced link.all := fun link member =>
        .cons (kinds link member ▸ operators level) (operands link member)
      exact first.append (.flatMap each)

/-! ## Another expression in parentheses -/

/-- Some tokens are an expression in parentheses, and any other expression may stand in place of
it: the constructs around it stay the same. -/
def Replaceable (name : Rule) (before inside behind : List Token) (formula : Formula) : Prop :=
  ∃ part frame frames, frame.Encloses ∧ Phrase (.chain .logicalOr) inside part ∧
    formula = surround (frame :: frames) part ∧
    ∀ others other, Phrase (.chain .logicalOr) others other →
      Phrase name (before ++ (others ++ behind)) (surround (frame :: frames) other)

theorem Replaceable.of_encloses (frame : Frame) {part : Formula} (encloses : frame.Encloses)
    (phrase : Phrase (.chain .logicalOr) inside part)
    (keeps : ∀ others other, Phrase (.chain .logicalOr) others other →
      Phrase name (before ++ (others ++ behind)) (frame.fill other)) :
    Replaceable name before inside behind (frame.fill part) :=
  ⟨part, frame, [], encloses, phrase, rfl, keeps⟩

theorem Replaceable.within (frame : Frame) (left right : List Token)
    (replaceable : Replaceable name before inside behind formula)
    (keeps : ∀ tokens part, Phrase name tokens part →
      Phrase outer (left ++ (tokens ++ right)) (frame.fill part)) :
    Replaceable outer (left ++ before) inside (behind ++ right) (frame.fill formula) := by
  obtain ⟨part, inner, frames, encloses, phrase, rfl, replaces⟩ := replaceable
  have further (part : Formula) : surround (inner :: (frames ++ [frame])) part =
      frame.fill (surround (inner :: frames) part) :=
    surround_append (inner :: frames) [frame] part
  refine ⟨part, inner, frames ++ [frame], encloses, phrase, (further part).symm, ?_⟩
  intro others other phrase'
  have whole := keeps _ _ (replaces others other phrase')
  rw [further]
  simpa using whole

theorem Replaceable.mono (replaceable : Replaceable name before inside behind formula)
    (keeps : ∀ tokens part, Phrase name tokens part → Phrase outer tokens part) :
    Replaceable outer before inside behind formula := by
  obtain ⟨part, frame, frames, encloses, phrase, same, replaces⟩ := replaceable
  exact ⟨part, frame, frames, encloses, phrase, same,
    fun others other phrase' => keeps _ _ (replaces others other phrase')⟩

/-- What stands among the links of a chain stands in one of their operands. -/
theorem exists_link_of_block {level : Level} {links : List Link}
    (balanced : ∀ link ∈ links, Balanced link.tokens)
    (kinds : ∀ link ∈ links, link.operator.kind = level.operator)
    (balanced' : Balanced inside) (openingKind : opening.kind = .openParenthesis)
    (whole : links.flatMap Link.all = before ++ opening :: (inside ++ closing :: behind)) :
    ∃ some link others left right, links = some ++ link :: others ∧
      link.tokens = left ++ opening :: (inside ++ closing :: right) ∧
      before = some.flatMap Link.all ++ link.operator :: left ∧
      behind = right ++ others.flatMap Link.all := by
  induction links generalizing before with
  | nil => simp at whole
  | cons link links inductionHypothesis =>
      obtain ⟨first, balanced⟩ := List.forall_mem_cons.mp balanced
      obtain ⟨kind, kinds⟩ := List.forall_mem_cons.mp kinds
      rw [List.flatMap_cons, Link.all, List.cons_append] at whole
      rcases List.cons_eq_append_iff.mp whole with ⟨-, front⟩ | ⟨between, rfl, later⟩
      · rw [List.cons.injEq] at front
        rw [← front.1, openingKind] at kind
        cases level <;> cases kind
      · rcases first.block_cases balanced' openingKind later with
          ⟨right, operand, rfl⟩ | ⟨rest, rfl, further⟩
        · exact ⟨[], link, links, between, right, rfl, operand, rfl, rfl⟩
        · obtain ⟨some, link', others, left, right, rfl, operand, rfl, rfl⟩ :=
            inductionHypothesis balanced kinds further
          exact ⟨link :: some, link', others, left, right, rfl, operand, by simp [Link.all], rfl⟩

/-- What stands around an operand in a chain of some links. -/
def Link.frame (link : Link) (level : Level) (first : Formula) (some others : List Link) : Frame :=
  .link level.label first (some.map Link.entry) (String.ofList link.operator.word)
    (others.map Link.entry)

/-- A chain is a frame around the operand of each of its links. -/
theorem joined_relinked (level : Level) (first : Formula) (some others : List Link) (link : Link) :
    joined level first ((some ++ link :: others).map Link.entry) =
      (link.frame level first some others).fill link.operand := by
  cases some <;> simp [joined, Link.frame, Frame.fill, Link.entry]

/-- The operand of a link can be exchanged for another phrase of its level. -/
theorem Phrase.relink {level : Level} {first : Formula} {some others : List Link} {link : Link}
    (phrase : Phrase level.operand tokens first)
    (kinds : ∀ other ∈ some ++ link :: others, other.operator.kind = level.operator)
    (operands : ∀ other ∈ some ++ link :: others, Phrase level.operand other.tokens other.operand)
    (operand : List Token) (part : Formula) (phrase' : Phrase level.operand operand part) :
    Phrase (.chain level) ((tokens ++ some.flatMap Link.all ++ [link.operator]) ++
        (operand ++ others.flatMap Link.all))
      ((link.frame level first some others).fill part) := by
  let replaced : Link := { link with tokens := operand, operand := part }
  have each {holds : Link → Prop} (holdsAll : ∀ other ∈ some ++ link :: others, holds other)
      (holdsNew : holds replaced) : ∀ other ∈ some ++ replaced :: others, holds other := by
    rw [List.forall_mem_append, List.forall_mem_cons] at holdsAll ⊢
    exact ⟨holdsAll.1, holdsNew, holdsAll.2.2⟩
  have operator : replaced.operator.kind = level.operator :=
    kinds link List.mem_append_cons_self
  have whole := Phrase.chain (some ++ replaced :: others) phrase (each kinds operator)
    (each operands phrase')
  rw [joined_relinked] at whole
  simpa [replaced, Link.all, Link.frame] using whole

/-- A token that is no opening parenthesis stands in front of the one that is looked for. -/
theorem exists_of_cons_eq {token : Token} (different : token.kind ≠ .openParenthesis)
    (openingKind : opening.kind = .openParenthesis)
    (whole : token :: tokens = before ++ opening :: behind) :
    ∃ between, before = token :: between ∧ tokens = between ++ opening :: behind := by
  rcases List.cons_eq_append_iff.mp whole with ⟨-, front⟩ | found
  · rw [List.cons.injEq] at front
    rw [← front.1] at different
    exact absurd openingKind different
  · exact found

/-- Wherever these parentheses are found among some tokens, what is between them can be
replaced. -/
def Exchanges (opening : Token) (inside : List Token) (closing : Token) (name : Rule)
    (tokens : List Token) (formula : Formula) : Prop :=
  ∀ before behind, tokens = before ++ opening :: (inside ++ closing :: behind) →
    Replaceable name (before ++ [opening]) inside (closing :: behind) formula

theorem Exchanges.singleton {token : Token} :
    Exchanges opening inside closing name [token] formula := by
  intro before behind whole
  have short := congrArg List.length whole
  simp only [List.length_append, List.length_cons, List.length_nil] at short
  omega

/-- The parentheses of a call with two inputs hold a comma, so that others stand in one of its
inputs. -/
theorem Exchanges.binaryCall {name first separator last : Token} {others : List Token}
    {other : Formula} (balanced : Balanced inside) (openingKind : opening.kind = .openParenthesis)
    (closingKind : closing.kind = .closeParenthesis) (nameKind : name.kind = .name)
    (firstKind : first.kind = .openParenthesis) (separatorKind : separator.kind = .comma)
    (lastKind : last.kind = .closeParenthesis)
    (phrase : Phrase (.chain .logicalOr) tokens formula)
    (phrase' : Phrase (.chain .logicalOr) others other)
    (exchanges : Exchanges opening inside closing (.chain .logicalOr) tokens formula)
    (exchanges' : Exchanges opening inside closing (.chain .logicalOr) others other) :
    Exchanges opening inside closing .binaryCall
      (name :: first :: (tokens ++ separator :: (others ++ [last])))
      (.call (String.ofList name.word) [formula, other]) := by
  intro before behind whole
  obtain ⟨before, rfl, call⟩ := exists_of_cons_eq (by simp [nameKind]) openingKind whole
  rcases List.cons_eq_append_iff.mp call with ⟨rfl, front⟩ | ⟨left, rfl, inputs⟩
  · rw [List.cons.injEq] at front
    obtain ⟨-, rfl, -⟩ :=
      balanced.append_inj phrase.balanced (Or.inl closingKind) (Or.inr separatorKind) front.2
    rw [separatorKind] at closingKind
    cases closingKind
  rcases phrase.balanced.block_cases balanced openingKind inputs with
    ⟨rest, within, rfl⟩ | ⟨rest, rfl, second⟩
  · exact (exchanges _ _ within).within (.input _ [] [other]) [name, first]
      (separator :: (others ++ [last])) fun tokens part phrase =>
        .binaryCall nameKind firstKind separatorKind lastKind phrase phrase'
  obtain ⟨left, rfl, input⟩ := exists_of_cons_eq (by simp [separatorKind]) openingKind second
  rcases phrase'.balanced.block_cases balanced openingKind input with
    ⟨rest, within, rfl⟩ | ⟨rest, -, nothing⟩
  · have keeps (others : List Token) (part : Formula)
        (phrase' : Phrase (.chain .logicalOr) others part) :
        Phrase .binaryCall (name :: first :: (tokens ++ [separator]) ++ (others ++ [last]))
          (.call (String.ofList name.word) [formula, part]) := by
      simpa using Phrase.binaryCall nameKind firstKind separatorKind lastKind phrase phrase'
    have replaceable := (exchanges' _ _ within).within (.input _ [formula] []) _ _ keeps
    simpa [Frame.fill] using replaceable
  · have short := congrArg List.length nothing
    simp only [List.length_append, List.length_cons, List.length_nil] at short
    omega

theorem Exchanges.chain {level : Level} {links : List Link} (balanced : Balanced inside)
    (openingKind : opening.kind = .openParenthesis) (phrase : Phrase level.operand tokens formula)
    (kinds : ∀ link ∈ links, link.operator.kind = level.operator)
    (operands : ∀ link ∈ links, Phrase level.operand link.tokens link.operand)
    (exchanges : Exchanges opening inside closing level.operand tokens formula)
    (exchangesAll : ∀ link ∈ links,
      Exchanges opening inside closing level.operand link.tokens link.operand) :
    Exchanges opening inside closing (.chain level) (tokens ++ links.flatMap Link.all)
      (joined level formula (links.map Link.entry)) := by
  intro before behind whole
  rcases phrase.balanced.block_cases balanced openingKind whole with
    ⟨rest, within, rfl⟩ | ⟨rest, rfl, later⟩
  · have replaceable := exchanges _ _ within
    have keeps (tokens : List Token) (part : Formula)
        (phrase : Phrase level.operand tokens part) :
        Phrase (.chain level) ([] ++ (tokens ++ links.flatMap Link.all))
          (joined level part (links.map Link.entry)) :=
      .chain links phrase kinds operands
    cases links with
    | nil =>
        rw [List.flatMap_nil, List.append_nil]
        exact replaceable.mono fun _ _ => .alone
    | cons link links => exact replaceable.within (.front level.label _) _ _ keeps
  · obtain ⟨some, link, others, left, right, rfl, operand, rfl, rfl⟩ :=
      exists_link_of_block (fun link member => (operands link member).balanced) kinds balanced
        openingKind later
    have member : link ∈ some ++ link :: others := List.mem_append_cons_self
    have replaceable := (exchangesAll link member _ _ operand).within
      (link.frame level formula some others) _ _ (phrase.relink kinds operands)
    rw [joined_relinked]
    simpa [Link.all] using replaceable

/-- An expression in parentheses in a phrase can be replaced. -/
theorem Phrase.exchanges (phrase : Phrase name tokens formula) (balanced : Balanced inside)
    (openingKind : opening.kind = .openParenthesis)
    (closingKind : closing.kind = .closeParenthesis) :
    Exchanges opening inside closing name tokens formula := by
  -- from the outermost construct to the one that is the expression in parentheses
  induction phrase with
  | number => exact .singleton
  | argument => exact .singleton
  | @group first last _ _ firstKind lastKind phrase inductionHypothesis =>
      intro before behind whole
      rcases phrase.balanced.parenthesized_cases balanced openingKind closingKind lastKind
        whole with ⟨rfl, rfl, rfl, rfl, rfl⟩ | ⟨between, rest, rfl, within, rfl⟩
      · exact .of_encloses .group (Or.inl rfl) phrase fun _ _ => .group firstKind lastKind
      · exact (inductionHypothesis _ _ within).within .group [first] [last]
          fun _ _ => .group firstKind lastKind
  | @unaryCall name first last _ _ nameKind firstKind lastKind phrase inductionHypothesis =>
      intro before behind whole
      obtain ⟨before, rfl, call⟩ := exists_of_cons_eq (by simp [nameKind]) openingKind whole
      rcases phrase.balanced.parenthesized_cases balanced openingKind closingKind lastKind
        call with ⟨rfl, rfl, rfl, rfl, rfl⟩ | ⟨between, rest, rfl, within, rfl⟩
      · exact .of_encloses (.input _ [] []) (Or.inr ⟨_, rfl⟩) phrase
          fun _ _ => .unaryCall nameKind firstKind lastKind
      · exact (inductionHypothesis _ _ within).within (.input _ [] []) [name, first] [last]
          fun _ _ => .unaryCall nameKind firstKind lastKind
  | binaryCall nameKind firstKind separatorKind lastKind phrase phrase' first second =>
      exact .binaryCall balanced openingKind closingKind nameKind firstKind separatorKind lastKind
        phrase phrase' first second
  | enclosed listed _ inductionHypothesis =>
      intro before behind whole
      exact (inductionHypothesis _ _ whole).mono fun _ _ => .enclosed listed
  | bare _ inductionHypothesis =>
      intro before behind whole
      exact (inductionHypothesis _ _ whole).mono fun _ _ => .bare
  | @prefixed operator _ _ kind _ inductionHypothesis =>
      intro before behind whole
      obtain ⟨before, rfl, operand⟩ := exists_of_cons_eq (by simp [kind]) openingKind whole
      have keeps (tokens : List Token) (part : Formula) (phrase : Phrase .unary tokens part) :
          Phrase .unary ([operator] ++ (tokens ++ []))
            (.prefixed (String.ofList operator.word) part) := by
        simpa using Phrase.prefixed kind phrase
      have replaceable := (inductionHypothesis _ _ operand).within (.operand _) _ _ keeps
      simpa [Frame.fill] using replaceable
  | chain links phrase kinds operands first others =>
      exact .chain balanced openingKind phrase kinds operands first others

/-- A part in parentheses can be exchanged for every other, and the frames around it stay. -/
theorem Derivation.substitute {first last one : List Char} {all : List Token} {whole : Formula}
    (composed : Derivation (first ++ '(' :: (one ++ ')' :: last)) all whole)
    (derivation : Derivation one tokens formula) :
    ∃ frame frames, frame.Encloses ∧ whole = surround (frame :: frames) formula ∧
      ∀ other others formula', Derivation other others formula' →
        ∃ tokens, Derivation (first ++ '(' :: (other ++ ')' :: last)) tokens
          (surround (frame :: frames) formula') := by
  obtain ⟨before, opening, rest, rfl, openingKind, openingWord, front, lexed⟩ :=
    composed.lexed.split (Or.inl rfl) rfl
  obtain ⟨inside, closing, behind, rfl, closingKind, closingWord, middle, lexed'⟩ :=
    lexed.split (Or.inr rfl) rfl
  obtain ⟨part, ending, rfl, ends, phrase⟩ := derivation.sentence
  have same := (middle ending ends).unique derivation.lexed
  obtain rfl := List.append_cancel_right same
  obtain ⟨body, final, split, finalEnds, isPhrase⟩ := composed.sentence
  obtain ⟨later, token, rfl⟩ : ∃ later token, behind = later ++ [token] := by
    rcases List.eq_nil_or_concat behind with rfl | ⟨later, token, rfl⟩
    · cases lexed'
    · exact ⟨later, token, List.concat_eq_append⟩
  have parts :
      (before ++ opening :: (inside ++ closing :: later)) ++ [token] = body ++ [final] := by
    simpa using split
  obtain ⟨rfl, last⟩ := List.append_inj' parts rfl
  obtain rfl : token = final := List.singleton_injective last
  obtain ⟨found, frame, frames, encloses, phrase', rfl, replaces⟩ :=
    isPhrase.exchanges phrase.balanced openingKind closingKind _ _ rfl
  obtain ⟨-, rfl⟩ := derivation.unique (derivation_of_phrase ends phrase' derivation.1)
  refine ⟨frame, frames, encloses, rfl, fun other others formula' derivation' => ?_⟩
  obtain ⟨part, ending', rfl, ends', phrase''⟩ := derivation'.sentence
  have closed := lexed'.layout.cons_word closing
  have opened := (derivation'.1.continue ends' (by simp) closed).cons_word opening
  have layout := (front ending ends).layout.continue ends (by simp) opened
  rw [openingWord, closingWord] at layout
  exact ⟨_, derivation_of_phrase finalEnds (replaces _ _ phrase'') (by simpa using layout)⟩

end Formula

namespace Judge

open Formula (Derivation Frame surround)

/-- Texts of which one stands in parentheses between the others. -/
def enclosed (first inside last : String) : String :=
  first ++ "(" ++ inside ++ ")" ++ last

theorem toList_enclosed (first inside last : String) :
    (enclosed first inside last).toList =
      first.toList ++ '(' :: (inside.toList ++ ')' :: last.toList) := by
  simp [enclosed]

/-- If a text with a formula has another one in parentheses, that is all of a group or the only
input of a call.  Any other text with a formula may stand there instead: the formula of the whole
stays the same around it, and so does the outcome, if the formulas of the parts have the same
outcome. -/
theorem value_substituted (judge : Judge) (first one last : String) {tokens all : List Token}
    {formula whole : Formula} (derivation : Derivation one.toList tokens formula)
    (composed : Derivation (enclosed first one last).toList all whole) :
    ∃ frame frames, frame.Encloses ∧ whole = surround (frame :: frames) formula ∧
      ∀ (other : String) others formula', Derivation other.toList others formula' →
        (∃ tokens, Derivation (enclosed first other last).toList tokens
          (surround (frame :: frames) formula')) ∧
        ∀ arguments,
          formula'.eval judge.functions arguments = formula.eval judge.functions arguments →
          judge.reader.Admits (enclosed first one last) →
          judge.reader.Admits (enclosed first other last) →
            judge.value (enclosed first other last) arguments =
              judge.value (enclosed first one last) arguments := by
  have spelled := composed
  rw [toList_enclosed] at spelled
  obtain ⟨frame, frames, encloses, rfl, replaces⟩ := spelled.substitute derivation
  refine ⟨frame, frames, encloses, rfl, fun other others formula' derivation' => ?_⟩
  obtain ⟨tokens', composed'⟩ := replaces _ _ _ derivation'
  rw [← toList_enclosed] at composed'
  refine ⟨⟨tokens', composed'⟩, fun arguments same admits admits' => ?_⟩
  rw [value_of_read (Reader.read_of_admits admits composed),
    value_of_read (Reader.read_of_admits admits' composed')]
  exact Formula.eval_surround (frame :: frames) same

/-- The formula of `1*2`. -/
def product : Formula :=
  .chain "multiplicative" (.number (Formula.literalValue ['1']))
    [("*", .number (Formula.literalValue ['2']))]

theorem derivation_product : ∃ tokens, Derivation "1*2".toList tokens product := by
  let one := digit '1' (by decide)
  let two := digit '2' (by decide)
  let link : Formula.Link :=
    { operator := times, tokens := [two], operand := .number (Formula.literalValue ['2']) }
  have first : Formula.Phrase Level.multiplicative.operand [one]
      (.number (Formula.literalValue ['1'])) :=
    .bare (.number rfl)
  have second : Formula.Phrase Level.multiplicative.operand [two]
      (.number (Formula.literalValue ['2'])) :=
    .bare (.number rfl)
  have phrase : Formula.Phrase (.chain .multiplicative) [one, times, two] product :=
    .chain [link] first (by simp [link, times, Level.operator]) (by simpa [link] using second)
  have layout : Layout [one, times, two, .ending] "1*2".toList := .of_words _
  exact ⟨_, Formula.derivation_of_phrase rfl (phrase.loosen (Formula.tighter_le _)) layout⟩

theorem derivation_two :
    ∃ tokens, Derivation "2".toList tokens (.number (Formula.literalValue ['2'])) := by
  let two := digit '2' (by decide)
  have phrase : Formula.Phrase .unary [two] (.number (Formula.literalValue ['2'])) :=
    .bare (.number rfl)
  have layout : Layout [two, .ending] "2".toList := .of_words _
  exact ⟨_, Formula.derivation_of_phrase rfl (phrase.lift _) layout⟩

/-- The product of one and two is two. -/
theorem value_product :
    Judge.standard.reader.Admits "(((~A)-(1*2))-3)" ∧
      Judge.standard.reader.Admits "(((~A)-(2))-3)" ∧
      product.eval Judge.standard.functions [Double.one] = .ok (Formula.literalValue ['2']) ∧
      Judge.standard.value "(((~A)-(2))-3)" [Double.one] =
        Judge.standard.value "(((~A)-(1*2))-3)" [Double.one] := by
  obtain ⟨_, derivation⟩ := derivation_product
  obtain ⟨_, derivation'⟩ := derivation_two
  obtain ⟨_, _, _, _, -, composed, -⟩ := fullyBracketed_differences.derivations
  have whole : enclosed "(((~A)-" "1*2" ")-3)" = "(((~A)-(1*2))-3)" := by decide
  have whole' : enclosed "(((~A)-" "2" ")-3)" = "(((~A)-(2))-3)" := by decide
  rw [← whole] at composed
  obtain ⟨_, _, -, -, replaced⟩ :=
    value_substituted Judge.standard "(((~A)-" "1*2" ")-3)" derivation composed
  obtain ⟨⟨_, composed'⟩, same⟩ := replaced "2" _ _ derivation'
  rw [whole] at composed same
  rw [whole'] at composed' same
  have admits : Judge.standard.reader.Admits "(((~A)-(1*2))-3)" :=
    Reader.admits_of_shallow composed (by decide) (by decide)
  have admits' : Judge.standard.reader.Admits "(((~A)-(2))-3)" :=
    Reader.admits_of_shallow composed' (by decide) (by decide)
  have equal : Formula.literalValue ['1'] * Formula.literalValue ['2'] =
      Formula.literalValue ['2'] := by
    decide +kernel
  have value : product.eval Judge.standard.functions [Double.one] =
      .ok (Formula.literalValue ['2']) :=
    congrArg Except.ok equal
  exact ⟨admits, admits', value, same [Double.one] value.symm admits admits'⟩

end Judge

end Reckon
