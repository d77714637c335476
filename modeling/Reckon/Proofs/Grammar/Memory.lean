import Reckon.Grammar.Packrat
import Reckon.Proofs.Grammar.Expected
import Reckon.Proofs.Grammar.Settles

/-!
# Reading with a memory is reading

A memory is sound for a text if everything it knows is the result of reading there, and if what
was expected on the way has been recorded.  `Peg.runPackrat` keeps its memory sound and answers
with the result of reading (`Peg.answers_runPackrat`), and it gives up on nothing that reading
without a memory gets through (`Peg.runWithMemory_eq`).
-/

namespace Reckon.Cursor

/-! ## Places in one text -/

/-- A place is a place of a text. -/
def IsIn (cursor : Cursor) (text : List Char) : Prop :=
  cursor.ahead = text.drop cursor.position

theorem IsIn.advance {cursor : Cursor} {text : List Char} (isIn : cursor.IsIn text)
    (count : Nat) : (cursor.advance count).IsIn text := by
  obtain ⟨position, ahead⟩ := cursor
  obtain rfl : ahead = text.drop position := isIn
  change (text.drop position).drop count =
    text.drop (position + ((text.drop position).take count).length)
  rw [List.drop_drop, List.length_take, List.length_drop]
  rcases Nat.le_total count (text.length - position) with inside | beyond
  · rw [Nat.min_eq_left inside]
  · rw [Nat.min_eq_right beyond, List.drop_eq_nil_of_le (by omega),
      List.drop_eq_nil_of_le (by omega)]

end Reckon.Cursor

namespace Reckon.Grammar

theorem Peg.Matches.isIn {text : List Char} {spare : Nat} {expression : Peg}
    {cursor rest : Cursor} {trees : List ParseTree}
    (matched : expression.Matches spare cursor trees rest) (isIn : cursor.IsIn text) :
    rest.IsIn text := by
  match expression with
  | .terminal kind =>
      obtain ⟨expected, run⟩ := matched
      rw [Peg.run, Terminal.run] at run
      cases taken : kind.take? (cursor.skipWhile isBlank).ahead with
      | none => simp [taken] at run
      | some word =>
          simp only [taken, Result.matched.injEq] at run
          obtain ⟨-, rfl, -⟩ := run
          exact (isIn.advance _).advance _
  | .rule name =>
      obtain ⟨_, -, body⟩ := matched.of_rule
      exact body.isIn isIn
  | .sequence first second =>
      obtain ⟨_, _, _, -, one, other⟩ := matched.of_sequence
      exact other.isIn (one.isIn isIn)
  | .choice first second =>
      rcases matched.of_choice with one | ⟨-, other⟩
      · exact one.isIn isIn
      · exact other.isIn isIn
  | .many repeated =>
      rcases matched.of_many with ⟨-, rfl⟩ | one | ⟨_, _, _, -, one, shorter, other⟩
      · exact isIn
      · exact one.isIn isIn
      · exact other.isIn (one.isIn isIn)
  | .nested inside =>
      obtain ⟨_, rfl, within⟩ := matched.of_nested
      exact within.isIn isIn
termination_by (spare, expression.height, cursor.ahead.length)
decreasing_by
  all_goals simp [Prod.lex_def, Peg.height, Rule.height_body_lt]
  all_goals omega

/-- Runs stay within their text. -/
theorem Peg.Settles.isIn {text : List Char} {expression : Peg} {cursor rest : Cursor}
    {trees : List ParseTree} {expected : Expected}
    (settled : expression.Settles cursor (.matched trees rest expected))
    (isIn : cursor.IsIn text) : rest.IsIn text := by
  obtain ⟨spare, run, -⟩ := settled
  exact Peg.Matches.isIn ⟨expected, run⟩ isIn

/-! ## Outcomes -/

namespace Result

/-- How an attempt ends, apart from what was expected. -/
def outcome : Result → Outcome
  | matched trees rest _ => .matched trees rest
  | failed _ => .failed
  | exhausted => .exhausted

/-- What was expected on the way. -/
def expected : Result → Expected
  | matched _ _ expected => expected
  | failed expected => expected
  | exhausted => .none

theorem outcome_after (trees : List ParseTree) (expected : Expected) (result : Result) :
    (result.after trees expected).outcome = result.outcome.after trees := by
  cases result <;> rfl

theorem outcome_under (name : Rule) (result : Result) :
    (result.under name).outcome = result.outcome.under name := by
  cases result <;> rfl

theorem expected_under (name : Rule) (result : Result) :
    (result.under name).expected = result.expected := by
  cases result <;> rfl

theorem expected_after (trees : List ParseTree) (expected : Expected) {result : Result}
    (given : result ≠ .exhausted) :
    (result.after trees expected).expected = expected.merge result.expected := by
  cases result with
  | exhausted => exact absurd rfl given
  | _ => rfl

end Result

theorem Outcome.after_nil (outcome : Outcome) : outcome.after [] = outcome := by
  cases outcome <;> rfl

/-! ## Sound memories -/

/-- The outcome that a memory has for a place. -/
def Outcome.ofKnown : Option (List ParseTree × Cursor) → Outcome
  | some (trees, rest) => .matched trees rest
  | none => .failed

namespace Packrat

/-- Everything that a memory knows of a text is the result of reading there, and what was
expected on the way has been recorded. -/
def Sound (text : List Char) (memory : Packrat) : Prop :=
  ∀ (expression : Peg) (position : Nat) (known : Option (List ParseTree × Cursor)),
    memory.known[(expression, position)]? = some known →
    ∃ result, expression.Settles { position, ahead := text.drop position } result ∧
      result.outcome = Outcome.ofKnown known ∧ memory.expected.Covers result.expected

/-- An answer that is not given up is the result of reading, and leaves a sound memory in which
what was expected has been recorded. -/
def Answers (text : List Char) (expression : Peg) (cursor : Cursor) (memory : Packrat)
    (answer : Outcome × Packrat) : Prop :=
  answer.1 ≠ .exhausted →
    ∃ result, expression.Settles cursor result ∧ result.outcome = answer.1 ∧
      answer.2.Sound text ∧ answer.2.expected = memory.expected.merge result.expected

theorem sound_empty (text : List Char) : empty.Sound text := by
  intro expression position known found
  simp [empty] at found

variable {text : List Char} {memory : Packrat} {expression : Peg} {cursor : Cursor}

/-- A failed terminal in the record leaves a memory sound. -/
theorem Sound.merge (sound : memory.Sound text) (expected : Expected) :
    ({ memory with expected := memory.expected.merge expected } : Packrat).Sound text := by
  intro expression position known found
  obtain ⟨result, settled, same, covers⟩ := sound expression position known found
  exact ⟨result, settled, same, covers.merge expected⟩

/-- A result that is settled can be kept. -/
theorem Sound.insert (sound : memory.Sound text) (isIn : cursor.IsIn text) {result : Result}
    (settled : expression.Settles cursor result) (covers : memory.expected.Covers result.expected)
    {known : Option (List ParseTree × Cursor)} (same : result.outcome = Outcome.ofKnown known) :
    ({ memory with known := memory.known.insert (expression, cursor.position) known } :
      Packrat).Sound text := by
  intro expression' position known' found
  dsimp only at found
  rw [Std.HashMap.getElem?_insert] at found
  by_cases hit : (expression, cursor.position) == (expression', position)
  · rw [if_pos hit] at found
    obtain ⟨rfl, rfl⟩ := Prod.mk.inj (beq_iff_eq.mp hit)
    cases found
    rw [← isIn]
    exact ⟨result, settled, same, covers⟩
  · rw [if_neg hit] at found
    exact sound expression' position known' found

theorem Sound.store (sound : memory.Sound text) (isIn : cursor.IsIn text) {result : Result}
    (settled : expression.Settles cursor result)
    (covers : memory.expected.Covers result.expected) :
    (memory.store expression cursor.position result.outcome).Sound text := by
  cases result with
  | matched trees rest expected => exact sound.insert isIn settled covers rfl
  | failed expected => exact sound.insert isIn settled covers rfl
  | exhausted => exact sound

/-- Keeping a result leaves the record of failures alone. -/
theorem expected_store (memory : Packrat) (expression : Peg) (position : Nat)
    (outcome : Outcome) :
    (memory.store expression position outcome).expected = memory.expected := by
  cases outcome <;> rfl

/-- What is found out is an answer, and so is what is remembered. -/
theorem Answers.answer {attempt : Packrat → Outcome × Packrat} (sound : memory.Sound text)
    (isIn : cursor.IsIn text)
    (answers : Answers text expression cursor memory (attempt memory)) :
    Answers text expression cursor memory
      (memory.answer expression cursor.position attempt) := by
  intro given
  unfold Packrat.answer at given ⊢
  split
  · rename_i trees rest found
    obtain ⟨result, settled, same, covers⟩ := sound _ _ _ found
    rw [← isIn] at settled
    exact ⟨result, settled, same, sound, covers.merge_eq.symm⟩
  · rename_i found
    obtain ⟨result, settled, same, covers⟩ := sound _ _ _ found
    rw [← isIn] at settled
    exact ⟨result, settled, same, sound, covers.merge_eq.symm⟩
  · rename_i found
    rw [found] at given
    rcases found : attempt memory with ⟨outcome, later⟩
    rw [found] at answers given
    obtain ⟨result, settled, rfl, sound', record⟩ := answers given
    refine ⟨result, settled, rfl, ?_, (expected_store _ _ _ _).trans record⟩
    refine sound'.store isIn settled ?_
    rw [record]
    exact Expected.covers_merge _ _

/-- What a failed answer tells: the run without memory fails as well, and its record is merged. -/
theorem Answers.of_failed {later : Packrat}
    (answers : Answers text expression cursor memory (.failed, later)) :
    ∃ expected, expression.Settles cursor (.failed expected) ∧ later.Sound text ∧
      later.expected = memory.expected.merge expected := by
  obtain ⟨result, settled, same, sound, record⟩ := answers (by simp)
  cases result with
  | failed expected => exact ⟨expected, settled, sound, record⟩
  | matched trees rest expected => cases same
  | exhausted => cases same

theorem Answers.of_matched {later : Packrat} {trees : List ParseTree} {rest : Cursor}
    (answers : Answers text expression cursor memory (.matched trees rest, later)) :
    ∃ expected, expression.Settles cursor (.matched trees rest expected) ∧ later.Sound text ∧
      later.expected = memory.expected.merge expected := by
  obtain ⟨result, settled, same, sound, record⟩ := answers (by simp)
  cases result with
  | failed expected => cases same
  | matched trees rest expected =>
      cases same
      exact ⟨expected, settled, sound, record⟩
  | exhausted => cases same

/-- What follows a success, put behind its trees. -/
theorem Answers.after {whole : Peg} {place : Cursor} {later : Packrat} {trees : List ParseTree}
    {expected : Expected} {answer : Outcome × Packrat}
    (answers : Answers text expression place later answer)
    (record : later.expected = memory.expected.merge expected)
    (combined : ∀ result, expression.Settles place result →
      whole.Settles cursor (result.after trees expected)) :
    Answers text whole cursor memory (answer.1.after trees, answer.2) := by
  intro given
  obtain ⟨result, settled, same, sound, record'⟩ := answers fun given' =>
    given (by simp [given', Outcome.after])
  refine ⟨_, combined result settled, by rw [Result.outcome_after, same], sound, ?_⟩
  rw [Result.expected_after _ _ settled.ne_exhausted, record', record, Expected.merge_assoc]

end Packrat

/-! ## The simulation -/

variable {text : List Char}

/-- Whatever reading with a memory answers is the result of reading. -/
theorem Peg.answers_runPackrat (spare : Nat) (expression : Peg) {cursor : Cursor}
    {memory : Packrat} (sound : memory.Sound text) (isIn : cursor.IsIn text) :
    Packrat.Answers text expression cursor memory
      (expression.runPackrat spare cursor memory) := by
  -- a sound memory is handed from part to part, and what the parts settle on tells what the
  -- whole settles on; where a part gives up there is nothing to show
  match expression with
  | .terminal kind =>
      intro _
      refine ⟨kind.run cursor, ⟨spare, by rw [Peg.run], ?_⟩, ?_⟩
      · rw [Terminal.run]
        cases kind.take? (cursor.skipWhile isBlank).ahead <;> simp
      · rw [Peg.runPackrat, Terminal.run, Terminal.runPackrat]
        cases kind.take? (cursor.skipWhile isBlank).ahead with
        | some word => exact ⟨rfl, sound, (Expected.merge_none _).symm⟩
        | none => exact ⟨rfl, sound.merge _, rfl⟩
  | .rule name =>
      rw [Peg.runPackrat]
      refine .answer sound isIn fun given => ?_
      have body := Peg.answers_runPackrat spare name.body sound isIn
      have body' : (name.body.runPackrat spare cursor memory).1 ≠ .exhausted := by
        intro given'
        apply given
        simp [given', Outcome.under]
      obtain ⟨result, settled, same, sound', record⟩ := body body'
      exact ⟨_, settled.rule, by rw [Result.outcome_under, same], sound',
        by rw [Result.expected_under, record]⟩
  | .sequence first second =>
      rw [Peg.runPackrat]
      refine .answer sound isIn ?_
      have one := Peg.answers_runPackrat spare first sound isIn
      rcases run : first.runPackrat spare cursor memory with ⟨outcome, later⟩
      rw [run] at one
      cases outcome with
      | matched trees rest =>
          obtain ⟨expected, settled, sound', record⟩ := one.of_matched
          have other := Peg.answers_runPackrat spare second sound' (settled.isIn isIn)
          exact other.after record fun _ => settled.sequence
      | failed =>
          obtain ⟨expected, settled, sound', record⟩ := one.of_failed
          exact fun _ => ⟨_, settled.refused, rfl, sound', record⟩
      | exhausted => exact fun given => absurd rfl given
  | .choice first second =>
      rw [Peg.runPackrat]
      refine .answer sound isIn ?_
      have one := Peg.answers_runPackrat spare first sound isIn
      rcases run : first.runPackrat spare cursor memory with ⟨outcome, later⟩
      rw [run] at one
      cases outcome with
      | matched trees rest =>
          obtain ⟨expected, settled, sound', record⟩ := one.of_matched
          exact fun _ => ⟨_, settled.left, rfl, sound', record⟩
      | failed =>
          obtain ⟨expected, settled, sound', record⟩ := one.of_failed
          have other := Peg.answers_runPackrat spare second sound' isIn
          have whole := other.after record fun _ => settled.right
          rwa [Outcome.after_nil] at whole
      | exhausted => exact fun given => absurd rfl given
  | .many repeated =>
      rw [Peg.runPackrat]
      refine .answer sound isIn ?_
      have one := Peg.answers_runPackrat spare repeated sound isIn
      rcases run : repeated.runPackrat spare cursor memory with ⟨outcome, later⟩
      rw [run] at one
      cases outcome with
      | matched trees rest =>
          obtain ⟨expected, settled, sound', record⟩ := one.of_matched
          by_cases shorter : rest.ahead.length < cursor.ahead.length
          · have other := Peg.answers_runPackrat spare (.many repeated) sound' (settled.isIn isIn)
            simp only [shorter, if_true]
            exact other.after record fun _ => settled.more shorter
          · simp only [shorter, if_false]
            exact fun _ => ⟨_, settled.stuck shorter, rfl, sound', record⟩
      | failed =>
          obtain ⟨expected, settled, sound', record⟩ := one.of_failed
          exact fun _ => ⟨_, settled.stop, rfl, sound', record⟩
      | exhausted => exact fun given => absurd rfl given
  | .nested inside =>
      rw [Peg.runPackrat]
      refine .answer sound isIn ?_
      cases spare with
      | zero => exact fun given => absurd rfl given
      | succ spare =>
          intro given
          have within := Peg.answers_runPackrat spare inside sound isIn
          obtain ⟨result, settled, same, sound', record⟩ := within given
          exact ⟨result, settled.nested, same, sound', record⟩
termination_by (spare, expression.height, cursor.ahead.length)
decreasing_by
  all_goals simp [Prod.lex_def, Peg.height, Rule.height_body_lt]
  all_goals omega

theorem Packrat.answer_ne_exhausted {memory : Packrat} {expression : Peg} {position : Nat}
    {attempt : Packrat → Outcome × Packrat} (given : (attempt memory).1 ≠ .exhausted) :
    (memory.answer expression position attempt).1 ≠ .exhausted := by
  unfold Packrat.answer
  split
  · simp
  · simp
  · exact given

theorem Outcome.after_ne_exhausted {outcome : Outcome} (trees : List ParseTree)
    (given : outcome ≠ .exhausted) : outcome.after trees ≠ .exhausted := by
  cases outcome with
  | exhausted => exact absurd rfl given
  | _ => simp [Outcome.after]

/-- Reading with a memory gives up on nothing that reading gets through. -/
theorem Peg.runPackrat_ne_exhausted {spare : Nat} {expression : Peg} {cursor : Cursor}
    {memory : Packrat} (sound : memory.Sound text) (isIn : cursor.IsIn text)
    (given : expression.run spare cursor ≠ .exhausted) :
    (expression.runPackrat spare cursor memory).1 ≠ .exhausted := by
  match expression with
  | .terminal kind =>
      rw [Peg.runPackrat, Terminal.runPackrat]
      cases kind.take? (cursor.skipWhile isBlank).ahead <;> simp
  | .rule name =>
      rw [Peg.runPackrat]
      refine Packrat.answer_ne_exhausted ?_
      have body := Peg.run_body_ne_exhausted given
      have more := Peg.runPackrat_ne_exhausted sound isIn body
      rcases run : name.body.runPackrat spare cursor memory with ⟨outcome, later⟩
      rw [run] at more
      cases outcome with
      | exhausted => exact absurd rfl more
      | _ => simp [Outcome.under]
  | .sequence first second =>
      rw [Peg.runPackrat]
      refine Packrat.answer_ne_exhausted ?_
      have before := Peg.run_first_ne_exhausted given
      have more := Peg.runPackrat_ne_exhausted sound isIn before
      have one := Peg.answers_runPackrat spare first sound isIn
      rcases run : first.runPackrat spare cursor memory with ⟨outcome, later⟩
      rw [run] at more one
      cases outcome with
      | matched trees rest =>
          obtain ⟨expected, settled, sound', -⟩ := one.of_matched
          have same := settled.unique ⟨spare, rfl, before⟩
          rw [Peg.run, ← same, Result.andThen, ne_eq, Result.after_eq_exhausted_iff] at given
          have behind := Peg.runPackrat_ne_exhausted sound' (settled.isIn isIn) given
          exact Outcome.after_ne_exhausted trees behind
      | failed => simp
      | exhausted => exact absurd rfl more
  | .choice first second =>
      rw [Peg.runPackrat]
      refine Packrat.answer_ne_exhausted ?_
      have before := Peg.run_left_ne_exhausted given
      have more := Peg.runPackrat_ne_exhausted sound isIn before
      have one := Peg.answers_runPackrat spare first sound isIn
      rcases run : first.runPackrat spare cursor memory with ⟨outcome, later⟩
      rw [run] at more one
      cases outcome with
      | matched trees rest => simp
      | failed =>
          obtain ⟨expected, settled, sound', -⟩ := one.of_failed
          have same := settled.unique ⟨spare, rfl, before⟩
          rw [Peg.run, ← same, Result.orElse, ne_eq, Result.after_eq_exhausted_iff] at given
          exact Peg.runPackrat_ne_exhausted sound' isIn given
      | exhausted => exact absurd rfl more
  | .many repeated =>
      rw [Peg.runPackrat]
      refine Packrat.answer_ne_exhausted ?_
      have before := Peg.run_repeated_ne_exhausted given
      have more := Peg.runPackrat_ne_exhausted sound isIn before
      have one := Peg.answers_runPackrat spare repeated sound isIn
      rcases run : repeated.runPackrat spare cursor memory with ⟨outcome, later⟩
      rw [run] at more one
      cases outcome with
      | matched trees rest =>
          obtain ⟨expected, settled, sound', -⟩ := one.of_matched
          have same := settled.unique ⟨spare, rfl, before⟩
          by_cases shorter : rest.ahead.length < cursor.ahead.length
          · rw [Peg.run, ← same] at given
            simp only [shorter, if_true, ne_eq, Result.after_eq_exhausted_iff] at given ⊢
            have behind := Peg.runPackrat_ne_exhausted sound' (settled.isIn isIn) given
            exact Outcome.after_ne_exhausted trees behind
          · simp [shorter]
      | failed => simp
      | exhausted => exact absurd rfl more
  | .nested inside =>
      rw [Peg.runPackrat]
      refine Packrat.answer_ne_exhausted ?_
      cases spare with
      | zero => exact absurd (by rw [Peg.run]) given
      | succ spare =>
          rw [Peg.run] at given
          exact Peg.runPackrat_ne_exhausted sound isIn given
termination_by (spare, expression.height, cursor.ahead.length)
decreasing_by
  all_goals simp [Prod.lex_def, Peg.height, Rule.height_body_lt]
  all_goals omega

/-- The result with a memory is the result of reading. -/
theorem Peg.settles_runWithMemory {spare : Nat} {expression : Peg}
    (given : expression.runWithMemory spare text ≠ .exhausted) :
    expression.Settles (.start text) (expression.runWithMemory spare text) := by
  have start : (Cursor.start text).IsIn text := rfl
  have answers := Peg.answers_runPackrat spare expression (Packrat.sound_empty text) start
  unfold Peg.runWithMemory at given ⊢
  rcases run : expression.runPackrat spare (.start text) .empty with ⟨outcome, memory⟩
  rw [run] at answers given
  cases outcome with
  | matched trees rest =>
      obtain ⟨expected, settled, -, record⟩ := answers.of_matched
      have same : memory.expected = expected := record.trans (Expected.none_merge expected)
      simpa only [same] using settled
  | failed =>
      obtain ⟨expected, settled, -, record⟩ := answers.of_failed
      have same : memory.expected = expected := record.trans (Expected.none_merge expected)
      simpa only [same] using settled
  | exhausted => exact absurd rfl given

/-- Where reading gets through, reading with a memory has the same result. -/
theorem Peg.runWithMemory_eq {spare : Nat} {expression : Peg}
    (given : expression.run spare (.start text) ≠ .exhausted) :
    expression.runWithMemory spare text = expression.run spare (.start text) := by
  have start : (Cursor.start text).IsIn text := rfl
  have given' : expression.runWithMemory spare text ≠ .exhausted := by
    have more := Peg.runPackrat_ne_exhausted (Packrat.sound_empty text) start given
    unfold Peg.runWithMemory
    rcases run : expression.runPackrat spare (.start text) .empty with ⟨outcome, memory⟩
    rw [run] at more
    cases outcome with
    | exhausted => exact absurd rfl more
    | _ => simp
  exact (Peg.settles_runWithMemory given').unique ⟨spare, rfl, given⟩

end Reckon.Grammar
