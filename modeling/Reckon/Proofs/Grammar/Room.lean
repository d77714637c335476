import Reckon.Proofs.Grammar.Depth
import Reckon.Proofs.Grammar.Record

/-!
# Room for reading

The depth that is told from the characters of a text bounds the constructs that are open while the
text is read, whatever alternatives are tried and wherever reading fails: a prefix or a parenthesis
opens a level before reading enters it, and no level is closed before reading has left it.  Hence
nothing is given up where as many constructs may be open as the text is deep
(`run_formula_ne_exhausted`).
-/

namespace Reckon

open Grammar (Nesting Terminal)

/-- The characters up to behind the next word change the nesting like its terminal. -/
theorem Cursor.Yields.peak_eq {cursor rest : Cursor} {kind : Terminal} {word : List Char}
    (yields : cursor.Yields kind word rest) (nesting : Nesting) :
    nesting.peak cursor.ahead = max nesting.level ((nesting.behind kind).peak rest.ahead) := by
  obtain ⟨blanks, blank, split, -, -⟩ := cursor.exists_blanks
  have plain : ∀ c ∈ blanks, Nesting.IsPlain c :=
    fun c member => Nesting.isPlain_of_isBlank (blank c member)
  have taken := yields.1
  have spelled := (Terminal.spells_of_take?_eq_some taken).1
  rw [yields.split.1] at taken
  have next (isPrefix : kind = .prefixOperator) : rest.ahead.head? ≠ some '=' :=
    Terminal.head?_ne_of_take?_prefixOperator (isPrefix ▸ taken)
  rw [split, Nesting.peak_plain_append nesting _ plain, yields.split.1,
    Nesting.peak_word_append nesting spelled next]

namespace Grammar

variable {nesting : Nesting} {cursor rest : Cursor} {kind : Terminal} {word : List Char}
  {bound spare : Nat}

/-- A result that was not given up, with the levels that a text then opens behind it: one of some
nestings, from which the rest does not get beyond a bound. -/
def Result.Fits (bound : Nat) (later : Nesting → Prop) : Result → Prop
  | .matched _ rest _ => ∃ nesting, later nesting ∧ nesting.peak rest.ahead ≤ bound
  | .failed _ => True
  | .exhausted => False

variable {later middle invariant : Nesting → Prop} {first second repeated inside : Peg}
  {name : Rule}

theorem Result.fits_after {result : Result} {trees : List ParseTree} {expected : Expected} :
    (result.after trees expected).Fits bound later ↔ result.Fits bound later := by
  cases result <;> rfl

theorem Result.Fits.mono {result : Result} {other : Nesting → Prop}
    (fits : result.Fits bound later) (implied : ∀ nesting, later nesting → other nesting) :
    result.Fits bound other := by
  cases result with
  | matched trees rest expected =>
      obtain ⟨nesting, reached, below⟩ := fits
      exact ⟨nesting, implied nesting reached, below⟩
  | failed expected => trivial
  | exhausted => exact fits

namespace Peg

theorem fits_terminal (below : nesting.peak cursor.ahead ≤ bound) :
    ((Peg.terminal kind).run spare cursor).Fits bound (· = nesting.behind kind) := by
  by_cases starts : cursor.Starts kind
  · obtain ⟨word, rest, yields⟩ := starts
    obtain ⟨trees, fewer, run, -⟩ := passes_terminal yields
    rw [yields.peak_eq] at below
    rw [Peg.run] at run ⊢
    rw [run]
    exact ⟨_, rfl, by omega⟩
  · obtain ⟨fewer, run, -⟩ := misses_terminal starts
    rw [Peg.run] at run ⊢
    rw [run]
    trivial

theorem fits_rule (body : (name.body.run spare cursor).Fits bound later) :
    ((Peg.rule name).run spare cursor).Fits bound later := by
  rw [Peg.run]
  cases run : name.body.run spare cursor <;> rw [run] at body <;> exact body

/-- A sequence fits if its second part fits wherever the first may have led. -/
theorem fits_sequence (before : (first.run spare cursor).Fits bound middle)
    (behind : ∀ nesting (place : Cursor), middle nesting → nesting.peak place.ahead ≤ bound →
      (second.run spare place).Fits bound later) :
    ((first.sequence second).run spare cursor).Fits bound later := by
  rw [Peg.run]
  cases run : first.run spare cursor with
  | matched trees place expected =>
      rw [run] at before
      obtain ⟨nesting, reached, below⟩ := before
      exact Result.fits_after.mpr (behind nesting place reached below)
  | failed expected => trivial
  | exhausted =>
      rw [run] at before
      exact before

theorem fits_choice (one : (first.run spare cursor).Fits bound later)
    (other : (second.run spare cursor).Fits bound later) :
    ((first.choice second).run spare cursor).Fits bound later := by
  rw [Peg.run]
  cases run : first.run spare cursor with
  | failed expected => exact Result.fits_after.mpr other
  | matched trees rest expected =>
      rw [run] at one
      exact one
  | exhausted =>
      rw [run] at one
      exact one

theorem fits_many
    (once : ∀ nesting (cursor : Cursor), invariant nesting → nesting.peak cursor.ahead ≤ bound →
      (repeated.run spare cursor).Fits bound invariant)
    (start : invariant nesting) (below : nesting.peak cursor.ahead ≤ bound) :
    ((Peg.many repeated).run spare cursor).Fits bound invariant := by
  induction measure : cursor.ahead.length using Nat.strong_induction_on
    generalizing nesting cursor with
  | _ measure inductionHypothesis =>
  subst measure
  have fits := once nesting cursor start below
  rw [Peg.run]
  cases run : repeated.run spare cursor with
  | matched trees rest expected =>
      rw [run] at fits
      obtain ⟨reached, holds, below'⟩ := fits
      dsimp only
      split
      · rename_i shorter
        exact Result.fits_after.mpr (inductionHypothesis _ shorter holds below' rfl)
      · exact ⟨reached, holds, below'⟩
  | failed expected => exact ⟨nesting, start, below⟩
  | exhausted =>
      rw [run] at fits
      exact fits

/-- Something nested needs a level more than is open outside of it. -/
theorem fits_nested (room : bound < nesting.level + spare)
    (below : nesting.peak cursor.ahead ≤ bound)
    (within : ∀ fewer, spare = fewer + 1 → (inside.run fewer cursor).Fits bound later) :
    ((Peg.nested inside).run spare cursor).Fits bound later := by
  have level := nesting.level_le_peak cursor.ahead
  cases spare with
  | zero => omega
  | succ fewer =>
      rw [Peg.run]
      exact within fewer rfl

end Peg

/-! ## Rules -/

/-- A rule gets through with the room that the depth of the rest leaves.  A chain starts without
pending prefixes. -/
def Rule.Fits (name : Rule) (bound spare : Nat) : Prop :=
  ∀ (nesting : Nesting) (cursor : Cursor), (∀ level, name = .chain level → nesting.pending = 0) →
    bound ≤ nesting.level + spare → nesting.peak cursor.ahead ≤ bound →
    ((Peg.rule name).run spare cursor).Fits bound fun later => later.around = nesting.around

namespace Peg

/-- What stands in parentheses starts with a level more. -/
theorem fits_parenthesized (room : bound ≤ nesting.level + spare)
    (below : nesting.peak cursor.ahead ≤ bound)
    (within : ∀ fewer (place : Cursor), spare = fewer + 1 →
      (nesting.behind .openParenthesis).peak place.ahead ≤ bound →
      (inside.run fewer place).Fits bound later) :
    (((Peg.terminal .openParenthesis).sequence (.nested inside)).run spare cursor).Fits bound
      later := by
  refine fits_sequence (fits_terminal below) ?_
  rintro _ place rfl below'
  refine fits_nested ?_ below' fun fewer enough => within fewer place enough below'
  rw [Nesting.level_behind_openParenthesis]
  omega

section Operands

variable (inner : ∀ fewer, spare = fewer + 1 → (Rule.chain .logicalOr).Fits bound fewer)
  (room : bound ≤ nesting.level + spare)

include inner room

/-- What stands in parentheses has one level less of room. -/
theorem fits_inner {fewer : Nat} {next : Peg} (enough : spare = fewer + 1)
    (below : (nesting.behind .openParenthesis).peak cursor.ahead ≤ bound)
    (behind : ∀ (reached : Nesting) (place : Cursor),
      reached.around = (nesting.behind .openParenthesis).around →
      reached.peak place.ahead ≤ bound → (next.run fewer place).Fits bound later) :
    ((Rule.inner.sequence next).run fewer cursor).Fits bound later := by
  refine fits_sequence (inner fewer enough _ _ (fun _ _ => rfl) ?_ below) behind
  rw [Nesting.level_behind_openParenthesis]
  omega

theorem fits_last {fewer : Nat} (enough : spare = fewer + 1)
    (below : (nesting.behind .openParenthesis).peak cursor.ahead ≤ bound) :
    ((Rule.inner.sequence (.terminal .closeParenthesis)).run fewer cursor).Fits bound
      (· = nesting) := by
  refine fits_inner inner room enough below fun reached place around below' => ?_
  refine (fits_terminal below').mono ?_
  rintro _ rfl
  exact Nesting.behind_closeParenthesis around

/-- Behind a group the nesting is what it was before it. -/
theorem fits_group (below : nesting.peak cursor.ahead ≤ bound) :
    ((Peg.rule .group).run spare cursor).Fits bound (· = nesting) :=
  fits_rule <| fits_parenthesized room below fun _ _ enough below' =>
    fits_last inner room enough below'

theorem fits_unaryCall (below : nesting.peak cursor.ahead ≤ bound) :
    ((Peg.rule .unaryCall).run spare cursor).Fits bound (· = nesting) := by
  refine fits_rule (fits_sequence (fits_terminal below) fun reached place same below' => ?_)
  obtain rfl : nesting = reached := same.symm
  exact fits_parenthesized room below' fun _ _ enough below' => fits_last inner room enough below'

theorem fits_binaryCall (below : nesting.peak cursor.ahead ≤ bound) :
    ((Peg.rule .binaryCall).run spare cursor).Fits bound (· = nesting) := by
  refine fits_rule (fits_sequence (fits_terminal below) fun reached place same below' => ?_)
  obtain rfl : nesting = reached := same.symm
  refine fits_parenthesized room below' fun fewer place enough below' => ?_
  refine fits_inner inner room enough below' fun reached place around below' => ?_
  refine fits_sequence (fits_terminal below') ?_
  rintro _ place rfl below'
  -- the comma settles the prefixes that the first input has left pending
  have back : reached.behind .comma = nesting.behind .openParenthesis := by
    rw [Nesting.behind_of_joins _ rfl, Nesting.settled, around]
    rfl
  rw [back] at below'
  exact fits_last inner room enough below'

theorem fits_atom (below : nesting.peak cursor.ahead ≤ bound) :
    ((Peg.rule .atom).run spare cursor).Fits bound (· = nesting) :=
  fits_rule <| fits_choice (fits_binaryCall inner room below) <|
    fits_choice (fits_unaryCall inner room below) <| fits_choice (fits_terminal below) <|
      fits_choice (fits_terminal below) (fits_group inner room below)

end Operands

end Peg

theorem Rule.fits_unary
    (inner : ∀ fewer, spare = fewer + 1 → (Rule.chain .logicalOr).Fits bound fewer)
    (operand : ∀ fewer, spare = fewer + 1 → Rule.unary.Fits bound fewer) :
    Rule.unary.Fits bound spare := by
  intro nesting cursor _ room below
  refine Peg.fits_rule (Peg.fits_choice ?_ ?_)
  · refine Peg.fits_sequence (Peg.fits_terminal below) ?_
    rintro _ place rfl below'
    have opened := nesting.level_behind_prefixOperator
    refine Peg.fits_nested (by omega) below' fun fewer enough => ?_
    exact operand fewer enough (nesting.behind .prefixOperator) place
      (fun _ chained => by cases chained) (by omega) below'
  · exact (Peg.fits_atom inner room below).mono fun _ same => congrArg _ same

theorem Rule.fits_chain (level : Level) (operand : level.operand.Fits bound spare) :
    (Rule.chain level).Fits bound spare := by
  intro nesting cursor start room below
  have settled := start level rfl
  have first := operand nesting cursor (fun _ _ => settled) room below
  refine Peg.fits_rule (Peg.fits_sequence first fun reached place around below' => ?_)
  let invariant (reached : Nesting) : Prop := reached.around = nesting.around
  refine @Peg.fits_many _ _ _ _ invariant _ (fun reached place around below' => ?_) around below'
  refine Peg.fits_sequence (Peg.fits_terminal below') ?_
  rintro _ place rfl below'
  have back : reached.behind level.operator = nesting := by
    rw [Nesting.behind_of_joins _ level.joins_operator, Nesting.settled, around, ← settled]
  rw [back] at below'
  exact operand nesting place (fun _ _ => settled) room below'

/-- By induction on the room: operands and chains fit together. -/
theorem Rule.fits (bound spare : Nat) :
    Rule.unary.Fits bound spare ∧ ∀ level, (Rule.chain level).Fits bound spare := by
  induction spare with
  | zero =>
      have unary : Rule.unary.Fits bound 0 :=
        fits_unary (fun _ enough => by cases enough) fun _ enough => by cases enough
      exact ⟨unary, @Level.induction (·.Fits bound 0) unary fits_chain⟩
  | succ spare inductionHypothesis =>
      obtain ⟨operand, inner⟩ := inductionHypothesis
      have unary : Rule.unary.Fits bound (spare + 1) :=
        fits_unary (fun _ enough => Nat.succ.inj enough ▸ inner .logicalOr)
          fun _ enough => Nat.succ.inj enough ▸ operand
      exact ⟨unary, @Level.induction (·.Fits bound (spare + 1)) unary fits_chain⟩

/-- Room for the nesting depth is room for every text, grammatical or not. -/
theorem run_formula_ne_exhausted {text : List Char} (room : Nesting.depth text ≤ spare) :
    Rule.formula.body.run spare (.start text) ≠ .exhausted := by
  have below : Nesting.outermost.peak text ≤ Nesting.depth text :=
    Nat.max_le.mpr ⟨Nat.zero_le _, Nat.le_refl _⟩
  have inner := (Rule.fits (Nesting.depth text) spare).2 .logicalOr .outermost (.start text)
    (fun _ _ => rfl) (by omega) below
  have fits : (Rule.formula.body.run spare (.start text)).Fits (Nesting.depth text) fun _ => True :=
    Peg.fits_sequence inner fun _ _ _ below' => (Peg.fits_terminal below').mono fun _ _ => trivial
  intro given
  rw [given] at fits
  exact fits

end Grammar

end Reckon
