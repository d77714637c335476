import Reckon.Proofs.Grammar.Record
import Reckon.Proofs.Grammar.Token

/-!
# What may come next

A standing tells what is due behind some tokens of a formula, and what the open parentheses hold;
`Standing.Step` says how each token changes it.  `Blocked` follows the words of a text as long as
they are wanted.  Where it ends, the words before stand for exactly one standing
(`Standing.Steps.unique`) and can be continued up to a whole formula
(`Standing.exists_completion`), but not by the next word.
-/

namespace Reckon.Grammar

/-- What an open parenthesis holds. -/
inductive Opening where
  | group
  | firstInput
  | secondInput
  deriving DecidableEq, Repr

inductive Due where
  | operand
  /-- The parenthesis behind the name of a function. -/
  | inputs
  /-- An operator, or the end of what the operand stands in. -/
  | joint
  deriving DecidableEq, Repr

/-- What is due in a formula, and what its open parentheses hold, from the innermost one. -/
structure Standing where
  due : Due
  around : List Opening
  deriving DecidableEq, Repr

namespace Standing

def start : Standing :=
  { due := .operand, around := [] }

/-- The binary operators, from the tightest to the loosest. -/
def operators : List Terminal :=
  [.productOperator, .sumOperator, .relationOperator, .equalityOperator, .bitAndOperator,
    .bitXorOperator, .bitOrOperator, .andOperator, .orOperator]

/-- What may stand behind the last operand in the innermost open parenthesis. -/
def closers : List Opening → List Terminal
  | [] => [.endOfText]
  | .firstInput :: _ => [.comma, .closeParenthesis]
  | .secondInput :: _ | .group :: _ => [.closeParenthesis]

/-- The terminals of the words that may come next. -/
def wanted (standing : Standing) : List Terminal :=
  match standing.due with
  | .operand => [.prefixOperator, .name, .number, .argument, .openParenthesis]
  | .inputs => [.openParenthesis]
  | .joint => operators ++ closers standing.around

/-- A word of a terminal leads from one standing to another one. -/
inductive Step : Standing → Terminal → Standing → Prop
  | prefixed {around : List Opening} :
      Step ⟨.operand, around⟩ .prefixOperator ⟨.operand, around⟩
  | number {around : List Opening} : Step ⟨.operand, around⟩ .number ⟨.joint, around⟩
  | argument {around : List Opening} : Step ⟨.operand, around⟩ .argument ⟨.joint, around⟩
  | name {around : List Opening} : Step ⟨.operand, around⟩ .name ⟨.inputs, around⟩
  | group {around : List Opening} :
      Step ⟨.operand, around⟩ .openParenthesis ⟨.operand, .group :: around⟩
  | inputs {around : List Opening} :
      Step ⟨.inputs, around⟩ .openParenthesis ⟨.operand, .firstInput :: around⟩
  | operator {kind : Terminal} {around : List Opening} :
      kind ∈ operators → Step ⟨.joint, around⟩ kind ⟨.operand, around⟩
  | comma {around : List Opening} :
      Step ⟨.joint, .firstInput :: around⟩ .comma ⟨.operand, .secondInput :: around⟩
  | close {opening : Opening} {around : List Opening} :
      Step ⟨.joint, opening :: around⟩ .closeParenthesis ⟨.joint, around⟩

/-- Some tokens lead from one standing to another one. -/
inductive Steps : Standing → List Token → Standing → Prop
  | nil {standing : Standing} : Steps standing [] standing
  | cons {standing later final : Standing} {token : Token} {tokens : List Token} :
      Step standing token.kind later → Steps later tokens final →
      Steps standing (token :: tokens) final

variable {standing later final : Standing} {kind : Terminal} {tokens others : List Token}

/-- Words are followed only as long as they are wanted. -/
theorem Step.mem_wanted (step : Step standing kind later) : kind ∈ standing.wanted := by
  cases step with
  | operator listed => exact List.mem_append_left _ listed
  | @close opening around => cases opening <;> simp [wanted, closers]
  | _ => simp [wanted, closers]

/-- Every word that is wanted leads somewhere, unless it is the end of the text. -/
theorem exists_step (listed : kind ∈ standing.wanted) :
    (kind = .endOfText ∧ standing = ⟨.joint, []⟩) ∨ ∃ later, Step standing kind later := by
  obtain ⟨due, around⟩ := standing
  cases due with
  | operand =>
      simp only [wanted, List.mem_cons, List.not_mem_nil, or_false] at listed
      rcases listed with rfl | rfl | rfl | rfl | rfl
      · exact Or.inr ⟨_, .prefixed⟩
      · exact Or.inr ⟨_, .name⟩
      · exact Or.inr ⟨_, .number⟩
      · exact Or.inr ⟨_, .argument⟩
      · exact Or.inr ⟨_, .group⟩
  | inputs =>
      obtain rfl : kind = .openParenthesis := by simpa [wanted] using listed
      exact Or.inr ⟨_, .inputs⟩
  | joint =>
      rcases List.mem_append.mp listed with operator | closer
      · exact Or.inr ⟨_, .operator operator⟩
      · cases around with
        | nil => exact Or.inl ⟨List.mem_singleton.mp closer, rfl⟩
        | cons opening around =>
            cases opening with
            | firstInput =>
                simp only [closers, List.mem_cons, List.not_mem_nil, or_false] at closer
                rcases closer with rfl | rfl
                · exact Or.inr ⟨_, .comma⟩
                · exact Or.inr ⟨_, .close⟩
            | group | secondInput =>
                obtain rfl := List.mem_singleton.mp closer
                exact Or.inr ⟨_, .close⟩

theorem Step.ne_endOfText (step : Step standing kind later) : kind ≠ .endOfText := by
  rintro rfl
  cases step with
  | operator listed => simp [operators] at listed

theorem Step.unique {other : Standing} (step : Step standing kind later)
    (step' : Step standing kind other) : later = other := by
  cases step with
  | operator listed =>
      cases step' with
      | operator => rfl
      | _ => simp [operators] at listed
  | comma =>
      cases step' with
      | operator listed => simp [operators] at listed
      | comma => rfl
  | close =>
      cases step' with
      | operator listed => simp [operators] at listed
      | close => rfl
  | _ => cases step'; rfl

theorem Step.mayPrecede {next : Terminal} (step : Step standing kind later)
    (listed : next ∈ later.wanted) : kind.mayPrecede next = true := by
  have behind (around : List Opening) : ∀ next ∈ wanted ⟨.joint, around⟩,
      (next.joins || next == .closeParenthesis || next == .endOfText) = true := by
    rcases around with _ | ⟨_ | _ | _, _⟩ <;> simp only [wanted, closers] <;> decide
  have opens (around : List Opening) : ∀ next ∈ wanted ⟨.operand, around⟩, next.opens = true := by
    simp only [wanted]
    decide
  have joins : ∀ kind ∈ operators, kind.joins = true := by decide
  cases step with
  | name =>
      obtain rfl : next = .openParenthesis := by simpa [wanted] using listed
      rfl
  | number | argument | close =>
      have := behind _ next listed
      simp [Terminal.mayPrecede, Terminal.closes, this]
  | operator among =>
      simp [Terminal.mayPrecede, joins _ among, opens _ next listed]
  | _ => simp [Terminal.mayPrecede, Terminal.joins, opens _ next listed]

theorem Steps.append {others : List Token} (steps : Steps standing tokens later)
    (steps' : Steps later others final) : Steps standing (tokens ++ others) final := by
  induction steps with
  | nil => exact steps'
  | cons step _ inductionHypothesis => exact .cons step (inductionHypothesis steps')

theorem Steps.of_append {first second : List Token}
    (steps : Steps standing (first ++ second) final) :
    ∃ later, Steps standing first later ∧ Steps later second final := by
  induction first generalizing standing with
  | nil => exact ⟨standing, .nil, steps⟩
  | cons token first inductionHypothesis =>
      cases steps with
      | cons step steps =>
          obtain ⟨later, before, behind⟩ := inductionHypothesis steps
          exact ⟨later, .cons step before, behind⟩

/-- A sequence of words leads to one standing. -/
theorem Steps.unique {other : Standing} (steps : Steps standing tokens later)
    (steps' : Steps standing tokens other) : later = other := by
  induction steps with
  | nil =>
      cases steps'
      rfl
  | cons step _ inductionHypothesis =>
      cases steps' with
      | cons step' steps' =>
          rw [← step.unique step'] at steps'
          exact inductionHypothesis steps'

theorem Steps.ne_endOfText (steps : Steps standing tokens later) :
    ∀ token ∈ tokens, token.kind ≠ .endOfText := by
  induction steps with
  | nil => simp
  | cons step _ inductionHypothesis =>
      exact List.forall_mem_cons.mpr ⟨step.ne_endOfText, inductionHypothesis⟩

/-- Words that are followed may stand next to each other. -/
theorem Steps.isChain (steps : Steps standing tokens later) :
    tokens.IsChain Token.MayPrecede := by
  induction steps with
  | nil => exact .nil
  | @cons _ _ _ token tokens step steps inductionHypothesis =>
      refine inductionHypothesis.cons fun next front => ?_
      cases steps with
      | nil => simp at front
      | cons step' =>
          cases front
          exact step.mayPrecede step'.mem_wanted

/-- The terminals that may come next, as lists of what was expected name them. -/
def labels (standing : Standing) : List String :=
  match standing with
  | { due := .operand, around := _ } => ["unary_op", "name", "number", "variable", "'('"]
  | { due := .inputs, around := _ } => ["'('"]
  | { due := .joint, around } =>
      ["mul_op", "add_op", "rel_op", "eq_op", "band_op", "xor_op", "bor_op", "and_op", "or_op"] ++
        match around with
        | [] => ["EOF"]
        | .firstInput :: _ => ["','", "')'"]
        | .secondInput :: _ | .group :: _ => ["')'"]

theorem labels_wanted (standing : Standing) :
    standing.wanted.map Terminal.label = standing.labels := by
  obtain ⟨due, around⟩ := standing
  cases due with
  | operand | inputs => rfl
  | joint => rcases around with _ | ⟨_ | _ | _, _⟩ <;> rfl

/-- From every standing behind an operand the text can be closed. -/
theorem exists_closing (around : List Opening) :
    ∃ tokens, Steps ⟨.joint, around⟩ tokens ⟨.joint, []⟩ := by
  induction around with
  | nil => exact ⟨[], .nil⟩
  | cons opening around inductionHypothesis =>
      obtain ⟨tokens, steps⟩ := inductionHypothesis
      exact ⟨.closing :: tokens, .cons .close steps⟩

/-- Every standing can be continued up to the end of a formula. -/
theorem exists_completion (standing : Standing) :
    ∃ tokens, Steps standing tokens ⟨.joint, []⟩ := by
  let one : Token := { kind := .number, word := ['1'], spelled := Terminal.spells_number_one }
  obtain ⟨due, around⟩ := standing
  cases due with
  | operand =>
      obtain ⟨tokens, steps⟩ := exists_closing around
      exact ⟨one :: tokens, .cons .number steps⟩
  | inputs =>
      obtain ⟨tokens, steps⟩ := exists_closing (.firstInput :: around)
      exact ⟨.opening :: one :: tokens, .cons .inputs (.cons .number steps)⟩
  | joint => exact exists_closing around

end Standing

/-! ## Where a text is blocked -/

/-- The words of a text are followed as long as they are wanted, up to a place where the next word
is none of those that are wanted there. -/
inductive Blocked : Standing → Cursor → Expected → Prop
  | here {standing : Standing} {cursor : Cursor} :
      (∀ kind ∈ standing.wanted, ¬cursor.Starts kind) →
      Blocked standing cursor ⟨cursor.next.position, standing.wanted⟩
  | step {standing later : Standing} {cursor rest : Cursor} {kind : Terminal} {word : List Char}
      {record : Expected} :
      cursor.Yields kind word rest → standing.Step kind later → Blocked later rest record →
      Blocked standing cursor record

variable {standing later : Standing} {cursor rest : Cursor} {record : Expected} {kind : Terminal}
  {tokens : List Token}

theorem Blocked.position_le (blocked : Blocked standing cursor record) :
    cursor.next.position ≤ record.position := by
  induction blocked with
  | here => exact Nat.le_refl _
  | step yields step _ inductionHypothesis =>
      have := (yields.precedes step.ne_endOfText).further
      omega

/-- A word that is wanted is in front of where the text is blocked. -/
theorem Blocked.position_lt (blocked : Blocked standing cursor record)
    (starts : cursor.Starts kind) (listed : kind ∈ standing.wanted) :
    cursor.next.position < record.position := by
  cases blocked with
  | here refuses => exact absurd starts (refuses kind listed)
  | step yields step blocked =>
      have := (yields.precedes step.ne_endOfText).further
      have := blocked.position_le
      omega

/-- What stands in front of the place where a text is blocked, and behind it. -/
theorem Blocked.exists_tokens (blocked : Blocked standing cursor record) :
    ∃ tokens before behind final, standing.Steps tokens final ∧
      Layout (tokens ++ [.ending]) before ∧ cursor.ahead = before ++ behind ∧
      record.position = cursor.position + before.length ∧
      (∀ c, behind.head? = some c → isBlank c = false) ∧
      record.terminals = final.wanted ∧ ∀ kind ∈ final.wanted, kind.take? behind = none := by
  induction blocked with
  | @here standing cursor refuses =>
      obtain ⟨blanks, blank, split, position, starts⟩ := cursor.exists_blanks
      refine ⟨[], blanks, cursor.next.ahead, standing, .nil, ?_, split, position, starts, rfl, ?_⟩
      · have layout := Layout.cons .ending blank .nil
        rwa [Token.ending, List.append_nil, List.append_nil] at layout
      · intro kind listed
        cases taken : kind.take? cursor.next.ahead with
        | none => rfl
        | some word => exact absurd ⟨word, _, taken, rfl⟩ (refuses kind listed)
  | @step standing later cursor rest kind word record yields step blocked inductionHypothesis =>
      obtain ⟨tokens, before, behind, final, steps, layout, split, position, front, listed,
        refuses⟩ := inductionHypothesis
      obtain ⟨blanks, blank, split', position', -⟩ := cursor.exists_blanks
      obtain ⟨split'', position''⟩ := yields.split
      let token : Token :=
        { kind, word, spelled := (Terminal.spells_of_take?_eq_some yields.1).1 }
      refine ⟨token :: tokens, blanks ++ word ++ before, behind, final, .cons step steps,
        .cons token blank layout, ?_, ?_, front, listed, refuses⟩
      · rw [split', split'', split]
        simp
      · rw [position, position'', position']
        simp only [List.length_append]
        omega

/-- The first token of a text is yielded, and the others stand behind it. -/
theorem Lexed.yields {token : Token} (lexed : Lexed (token :: tokens) cursor.ahead) :
    ∃ rest, cursor.Yields token.kind token.word rest ∧
      (token.kind ≠ .endOfText → Lexed tokens rest.ahead) := by
  obtain ⟨blanks, behind, split, blank, starts, taken, after⟩ := lexed.front
  have ahead : cursor.next.ahead = token.word ++ behind := by
    rw [Cursor.next_ahead, split, dropWhile_blanks_append blank starts]
  have yields : cursor.Yields token.kind token.word (cursor.next.advance token.word.length) :=
    ⟨by rw [ahead, taken], rfl⟩
  refine ⟨_, yields, fun inside => ?_⟩
  rcases after with ⟨ends, -⟩ | ⟨-, lexed⟩
  · exact absurd ends inside
  · have rest := yields.split.1
    rw [ahead] at rest
    rwa [← List.append_cancel_left rest]

/-- A text whose tokens are all wanted is not blocked. -/
theorem Blocked.not_steps {ending : Token} (blocked : Blocked standing cursor record)
    (ends : ending.kind = .endOfText) (lexed : Lexed (tokens ++ [ending]) cursor.ahead) :
    ¬standing.Steps tokens ⟨.joint, []⟩ := by
  intro steps
  -- up to where the text is blocked, the words that are wanted are the tokens
  induction blocked generalizing tokens with
  | here refuses =>
      cases steps with
      | nil =>
          obtain ⟨rest, yields, -⟩ := lexed.yields
          rw [ends] at yields
          exact refuses .endOfText (by simp [Standing.wanted, Standing.closers]) yields.starts
      | cons step =>
          obtain ⟨rest, yields, -⟩ := lexed.yields
          exact refuses _ step.mem_wanted yields.starts
  | step yields step _ inductionHypothesis =>
      cases steps with
      | nil =>
          obtain ⟨rest, yields', -⟩ := lexed.yields
          obtain ⟨rfl, -⟩ := yields.unique yields'
          exact absurd ends step.ne_endOfText
      | cons step' steps =>
          obtain ⟨rest, yields', behind⟩ := lexed.yields
          obtain ⟨rfl, rfl, rfl⟩ := yields.unique yields'
          rw [← step.unique step'] at steps
          exact inductionHypothesis (behind step.ne_endOfText) steps

end Reckon.Grammar
