import Reckon.Proofs.Formula.Reading
import Reckon.Proofs.Grammar.Failure
import Reckon.Proofs.Grammar.Room

/-!
# Misreadings

Every formula leads from the start to the end of a text in the sense of standings
(`Formula.Phrase.steps`), and what leads there is a formula (`Formula.derivation_of_steps`).  Hence
a misreading points to the end of the longest part of the text that begins a formula, and lists
what may follow there and nothing else (`Reader.read_misread`).
-/

namespace Reckon

open Formula (Derivation Link Phrase)
open Grammar (isBlank Layout Level Lexed Nesting Opening Peg Result Rule Standing Terminal Token)

/-! ## Standings and formulas -/

namespace Formula

variable {name : Rule} {tokens : List Token} {formula : Formula} {text : List Char}

theorem steps_links {level : Level} {links : List Link} {around : List Opening}
    (kinds : ∀ link ∈ links, link.operator.kind = level.operator)
    (operands : ∀ link ∈ links,
      Standing.Steps ⟨.operand, around⟩ link.tokens ⟨.joint, around⟩) :
    Standing.Steps ⟨.joint, around⟩ (links.flatMap Link.all) ⟨.joint, around⟩ := by
  induction links with
  | nil => exact .nil
  | cons link links inductionHypothesis =>
      obtain ⟨kind, kinds⟩ := List.forall_mem_cons.mp kinds
      obtain ⟨operand, operands⟩ := List.forall_mem_cons.mp operands
      have operator := Grammar.operator_mem_operators level
      rw [List.flatMap_cons]
      exact .cons (.operator (kind ▸ operator))
        (operand.append (inductionHypothesis kinds operands))

/-- A phrase takes the place of an operand, whatever it stands in. -/
theorem Phrase.steps (phrase : Phrase name tokens formula) (around : List Opening) :
    Standing.Steps ⟨.operand, around⟩ tokens ⟨.joint, around⟩ := by
  have step {standing later final : Standing} {token : Token} {kind : Terminal}
      {tokens : List Token} (same : token.kind = kind) (step : standing.Step kind later)
      (steps : later.Steps tokens final) : standing.Steps (token :: tokens) final :=
    .cons (same ▸ step) steps
  induction phrase generalizing around with
  | number kind => exact step kind .number .nil
  | argument kind => exact step kind .argument .nil
  | group openingKind closingKind _ inside =>
      exact step openingKind .group ((inside _).append (step closingKind .close .nil))
  | unaryCall nameKind openingKind closingKind _ input =>
      exact step nameKind .name <| step openingKind .inputs <|
        (input _).append (step closingKind .close .nil)
  | binaryCall nameKind openingKind separatorKind closingKind _ _ first second =>
      exact step nameKind .name <| step openingKind .inputs <| (first _).append <|
        step separatorKind .comma <| (second _).append (step closingKind .close .nil)
  | enclosed _ _ inner => exact inner around
  | bare _ inner => exact inner around
  | prefixed kind _ operand => exact step kind .prefixed (operand around)
  | chain links _ kinds _ first operands =>
      exact (first around).append (steps_links kinds fun link member => operands link member around)

/-- Tokens that lead up to the end of a text are a formula. -/
theorem derivation_of_steps {ending : Token} (steps : Standing.start.Steps tokens ⟨.joint, []⟩)
    (ends : ending.kind = .endOfText) (layout : Layout (tokens ++ [ending]) text) :
    ∃ formula, Derivation text (tokens ++ [ending]) formula := by
  have lexed := layout.lexed_of_isChain ends steps.ne_endOfText steps.isChain
  rcases Grammar.formula_cases (.start text) with ⟨rest, record, passes⟩ | ⟨record, -, blocked⟩
  · obtain ⟨trees, spare, run, -⟩ := passes
    obtain ⟨others, formula, derivation, -⟩ := derivation_of_matches ⟨record, run⟩
    rw [lexed.unique derivation.lexed]
    exact ⟨formula, derivation⟩
  · exact absurd steps (blocked.not_steps ends lexed)

/-- The tokens of a derivation are followed from the start to a place where the text may end. -/
theorem Derivation.exists_steps (derivation : Derivation text tokens formula) :
    ∃ phrase ending, tokens = phrase ++ [ending] ∧ ending.kind = .endOfText ∧
      Standing.start.Steps phrase ⟨.joint, []⟩ := by
  obtain ⟨phrase, ending, rfl, ends, isPhrase⟩ := derivation.sentence
  exact ⟨phrase, ending, rfl, ends, isPhrase.steps []⟩

/-- What is wanted behind some tokens is what stands behind them in some formula. -/
theorem mem_wanted_iff {standing : Standing} (steps : Standing.start.Steps tokens standing)
    (kind : Terminal) :
    kind ∈ standing.wanted ↔ ∃ token behind text formula, token.kind = kind ∧
      Derivation text (tokens ++ token :: behind) formula := by
  constructor
  · intro listed
    rcases Standing.exists_step listed with ⟨rfl, rfl⟩ | ⟨later, step⟩
    · obtain ⟨formula, derivation⟩ :=
        derivation_of_steps steps rfl (Layout.of_words (tokens ++ [.ending]))
      exact ⟨.ending, [], _, formula, rfl, derivation⟩
    · obtain ⟨word, spelled⟩ := Terminal.exists_word kind
      let token : Token := { kind, word, spelled }
      obtain ⟨behind, steps'⟩ := later.exists_completion
      have all : Standing.start.Steps (tokens ++ token :: behind) ⟨.joint, []⟩ :=
        steps.append (.cons step steps')
      obtain ⟨formula, derivation⟩ := derivation_of_steps all rfl (Layout.of_words (_ ++ [.ending]))
      rw [List.append_assoc] at derivation
      exact ⟨token, behind ++ [.ending], _, formula, rfl, derivation⟩
  · rintro ⟨token, behind, text, formula, rfl, derivation⟩
    obtain ⟨phrase, ending, split, ends, all⟩ := derivation.exists_steps
    rcases List.eq_nil_or_concat behind with rfl | ⟨behind, last, rfl⟩
    · obtain ⟨rfl, same⟩ := List.append_inj' split rfl
      obtain rfl : token = ending := List.singleton_injective same
      rw [steps.unique all, ends]
      exact List.mem_append_right _ List.mem_cons_self
    · rw [List.concat_eq_append, ← List.cons_append, ← List.append_assoc] at split
      obtain ⟨rfl, -⟩ := List.append_inj' split rfl
      obtain ⟨later, steps', further⟩ := all.of_append
      rw [← steps.unique steps'] at further
      cases further with
      | cons step => exact step.mem_wanted

end Formula

/-! ## Misreadings -/

/-- What a misreading tells of a text: the part of the text in front of its position begins a
formula, its tokens lead to a standing, and what is listed is what may come next there, but does
not. -/
structure Misreading.Describes (misreading : Misreading) (text : List Char) (tokens : List Token)
    (standing : Standing) : Prop where
  text_eq : misreading.text = text
  position_le : misreading.expected.position ≤ text.length
  notBlank : ∀ c, (text.drop misreading.expected.position).head? = some c → isBlank c = false
  lexed : ∀ ending : Token, ending.kind = .endOfText →
    Lexed (tokens ++ [ending]) (text.take misreading.expected.position)
  steps : Standing.start.Steps tokens standing
  begins : ∃ completion others formula,
    Derivation (text.take misreading.expected.position ++ completion) others formula
  refuses : ∀ kind ∈ misreading.expected.terminals,
    kind.take? (text.drop misreading.expected.position) = none
  continues : ∀ kind, kind ∈ misreading.expected.terminals ↔
    ∃ token behind other formula, token.kind = kind ∧
      Derivation other (tokens ++ token :: behind) formula
  labels : misreading.expected.terminals.map Terminal.label = standing.labels
  message :
    let wanted := " or ".intercalate standing.labels
    let place := s!"({misreading.line}, {misreading.column})"
    misreading.message =
      s!"Expected {wanted} at position {place} => '{String.ofList misreading.excerpt}'."

/-- A report describes a text in one way. -/
theorem Misreading.Describes.unique {misreading : Misreading} {text : List Char}
    {tokens others : List Token} {standing other : Standing}
    (describes : misreading.Describes text tokens standing)
    (describes' : misreading.Describes text others other) :
    tokens = others ∧ standing = other := by
  have same := (describes.lexed .ending rfl).unique (describes'.lexed .ending rfl)
  obtain rfl := List.append_cancel_right same
  exact ⟨rfl, describes.steps.unique describes'.steps⟩

/-- A record of where the words are blocked is a description. -/
theorem Misreading.describes_of_blocked {text : List Char} {record : Grammar.Expected}
    (blocked : Grammar.Blocked .start (.start text) record) :
    ∃ tokens standing,
      ({ text, expected := record } : Misreading).Describes text tokens standing := by
  obtain ⟨tokens, before, behind, standing, steps, layout, split, position, front, listed,
    refuses⟩ := blocked.exists_tokens
  obtain rfl : text = before ++ behind := split
  have place : record.position = before.length := by simpa [Cursor.start] using position
  have taken : (before ++ behind).take record.position = before := by rw [place, List.take_left]
  have dropped : (before ++ behind).drop record.position = behind := by rw [place, List.drop_left]
  refine ⟨tokens, standing,
    { text_eq := rfl
      position_le := ?_
      notBlank := ?_
      lexed := ?_
      steps := steps
      begins := ?_
      refuses := ?_
      continues := ?_
      labels := ?_
      message := ?_ }⟩
  · rw [place, List.length_append]
    exact Nat.le_add_right _ _
  · rwa [dropped]
  · intro ending ends
    rw [taken, Token.eq_ending ends]
    exact layout.lexed_of_isChain rfl steps.ne_endOfText steps.isChain
  · obtain ⟨others, steps'⟩ := standing.exists_completion
    have whole := layout.continue rfl (by simp) (Layout.of_words (others ++ [.ending]))
    rw [← List.append_assoc] at whole
    obtain ⟨formula, derivation⟩ := Formula.derivation_of_steps (steps.append steps') rfl whole
    rw [taken]
    exact ⟨_, _, formula, derivation⟩
  · rw [dropped]
    exact fun kind member => refuses kind (listed ▸ member)
  · intro kind
    rw [listed]
    exact Formula.mem_wanted_iff steps kind
  · rw [listed, Standing.labels_wanted]
  · rw [message, listed, Standing.labels_wanted]

namespace Reader

/-- No text is given up that is not nested deeper than the capacity. -/
theorem roomy_of_shallow {reader : Reader} {text : List Char}
    (room : Nesting.depth text ≤ reader.capacity) : reader.result text ≠ .exhausted := by
  have given := Grammar.run_formula_ne_exhausted room
  rwa [result_eq_run given]

/-- A text is misread if it is not nested too deep and has no derivation, as long as reading is not
given up, which the capacity excludes.  Every misreading points to where the text stops to be the
beginning of a formula, and lists what may come there, in the order of the grammar. -/
theorem read_misread (reader : Reader) (text : String) :
    (Nesting.depth text.toList ≤ reader.capacity → reader.result text.toList ≠ .exhausted) ∧
    ((∃ misreading, reader.read text = .error (.misread misreading)) ↔
      Nesting.depth text.toList ≤ reader.limit ∧ reader.result text.toList ≠ .exhausted ∧
        ¬∃ tokens formula, Derivation text.toList tokens formula) ∧
    ∀ misreading, reader.read text = .error (.misread misreading) →
      ∃ tokens standing, misreading.Describes text.toList tokens standing ∧
        ∀ others other, misreading.Describes text.toList others other →
          others = tokens ∧ other = standing := by
  have outcome : (∃ misreading, reader.read text = .error (.misread misreading)) ↔
      Nesting.depth text.toList ≤ reader.limit ∧ reader.result text.toList ≠ .exhausted ∧
        ¬∃ tokens formula, Derivation text.toList tokens formula := by
    constructor
    · rintro ⟨misreading, read⟩
      have shallow : Nesting.depth text.toList ≤ reader.limit := by
        by_contra deep
        rw [read_of_deep (by omega)] at read
        cases read
      have roomy : reader.result text.toList ≠ .exhausted := by
        intro given
        rw [read_of_shallow shallow, parseTree, given] at read
        cases read
      refine ⟨shallow, roomy, ?_⟩
      rintro ⟨tokens, formula, derivation⟩
      rw [read_of_derivation roomy derivation, if_pos (derivation.depth_eq ▸ shallow)] at read
      cases read
    · rintro ⟨shallow, roomy, none⟩
      obtain ⟨misreading, parsed⟩ := parseTree_of_no_derivation roomy none
      refine ⟨misreading, ?_⟩
      rw [read_of_shallow shallow, parsed]
      rfl
  refine ⟨roomy_of_shallow, outcome, fun misreading read => ?_⟩
  obtain ⟨shallow, roomy, none⟩ := outcome.mp ⟨misreading, read⟩
  rcases Grammar.formula_cases (.start text.toList) with
    ⟨rest, record, trees, spare, run, -⟩ | ⟨record, misses, blocked⟩
  · obtain ⟨tokens, formula, derivation, -⟩ := Formula.derivation_of_matches ⟨record, run⟩
    exact absurd ⟨tokens, formula, derivation⟩ none
  · have result := (settles_result roomy).unique misses
    rw [read_of_shallow shallow, parseTree, result] at read
    cases read
    obtain ⟨tokens, standing, describes⟩ := Misreading.describes_of_blocked blocked
    refine ⟨tokens, standing, describes, fun others other describes' => ?_⟩
    exact describes'.unique describes

/-- A call has no third input. -/
theorem read_thirdInput :
    (¬∃ tokens formula, Derivation "max(1, 2, 3)".toList tokens formula) ∧
    ∃ misreading, ({ limit := 16 } : Reader).read "max(1, 2, 3)" = .error (.misread misreading) ∧
      ∃ tokens standing, misreading.Describes "max(1, 2, 3)".toList tokens standing ∧
        misreading.expected.position = 8 ∧
        standing.labels = ["mul_op", "add_op", "rel_op", "eq_op", "band_op", "xor_op", "bor_op",
          "and_op", "or_op", "')'"] := by
  let expected : Grammar.Expected :=
    { position := 8, terminals := Standing.operators ++ [.closeParenthesis] }
  have run : Rule.formula.body.run 256 (.start "max(1, 2, 3)".toList) = .failed expected := by
    cbv
  have result := @result_eq_run { limit := 16 } _ (by rw [run]; simp)
  have shallow : Nesting.depth "max(1, 2, 3)".toList ≤ (16 : Int) := by decide
  have read : ({ limit := 16 } : Reader).read "max(1, 2, 3)" =
      .error (.misread { text := "max(1, 2, 3)".toList, expected }) := by
    rw [read_of_shallow shallow, parseTree, result, run]
    rfl
  obtain ⟨-, outcome, described⟩ := read_misread { limit := 16 } "max(1, 2, 3)"
  obtain ⟨-, -, none⟩ := outcome.mp ⟨_, read⟩
  obtain ⟨tokens, standing, describes, -⟩ := described _ read
  exact ⟨none, _, read, tokens, standing, describes, rfl, describes.labels.symm⟩

end Reader

end Reckon
