import Reckon.Grammar.Run

/-!
# Runs of parsing expressions

How an expression ends follows from how its parts end: `Peg.Matches` and `Peg.Fails` leave out
what was expected on the way and have one rule for every form of expression.  A run that is not
given up stays the same when more constructs may be open at once (`Peg.run_eq_of_le`).
-/

namespace Reckon.Grammar

/-- From the prefixes to the chains, from the tightest level to the loosest. -/
theorem Level.induction {holds : Rule → Prop} (unary : holds .unary)
    (chain : ∀ level, holds (operand level) → holds (.chain level)) (level : Level) :
    holds (.chain level) := by
  have multiplicative := chain .multiplicative unary
  have additive := chain .additive multiplicative
  have relational := chain .relational additive
  have equality := chain .equality relational
  have bitwiseAnd := chain .bitwiseAnd equality
  have bitwiseXor := chain .bitwiseXor bitwiseAnd
  have bitwiseOr := chain .bitwiseOr bitwiseXor
  have logicalAnd := chain .logicalAnd bitwiseOr
  have logicalOr := chain .logicalOr logicalAnd
  cases level <;> assumption

/-- An expression matches: it reads some trees and leaves off at a place. -/
def Peg.Matches (spare : Nat) (expression : Peg) (cursor : Cursor) (trees : List ParseTree)
    (rest : Cursor) : Prop :=
  ∃ expected, expression.run spare cursor = .matched trees rest expected

/-- An expression does not match. -/
def Peg.Fails (spare : Nat) (expression : Peg) (cursor : Cursor) : Prop :=
  ∃ expected, expression.run spare cursor = .failed expected

variable {spare : Nat} {cursor place rest : Cursor} {first second repeated inside : Peg}
  {trees others : List ParseTree} {name : Rule}

/-! ## What parts make of a whole -/

namespace Peg

theorem Matches.rule (body : name.body.Matches spare cursor trees rest) :
    (Peg.rule name).Matches spare cursor [.node name trees] rest := by
  obtain ⟨expected, run⟩ := body
  exact ⟨expected, by rw [Peg.run, run, Result.under]⟩

theorem Matches.sequence (before : first.Matches spare cursor trees place)
    (behind : second.Matches spare place others rest) :
    (first.sequence second).Matches spare cursor (trees ++ others) rest := by
  obtain ⟨expected, run⟩ := before
  obtain ⟨expected', run'⟩ := behind
  exact ⟨expected.merge expected', by rw [Peg.run, run, Result.andThen, run', Result.after]⟩

theorem Matches.left (chosen : first.Matches spare cursor trees rest) :
    (first.choice second).Matches spare cursor trees rest := by
  obtain ⟨expected, run⟩ := chosen
  exact ⟨expected, by rw [Peg.run, run, Result.orElse]; simp⟩

theorem Matches.right (refused : first.Fails spare cursor)
    (chosen : second.Matches spare cursor trees rest) :
    (first.choice second).Matches spare cursor trees rest := by
  obtain ⟨expected, run⟩ := refused
  obtain ⟨expected', run'⟩ := chosen
  exact ⟨expected.merge expected', by
    rw [Peg.run, run, Result.orElse, run', Result.after, List.nil_append]⟩

theorem Matches.stop (refused : repeated.Fails spare cursor) :
    (Peg.many repeated).Matches spare cursor [] cursor := by
  obtain ⟨expected, run⟩ := refused
  exact ⟨expected, by rw [Peg.run, run]⟩

theorem Matches.more (once : repeated.Matches spare cursor trees place)
    (shorter : place.ahead.length < cursor.ahead.length)
    (again : (Peg.many repeated).Matches spare place others rest) :
    (Peg.many repeated).Matches spare cursor (trees ++ others) rest := by
  obtain ⟨expected, run⟩ := once
  obtain ⟨expected', run'⟩ := again
  refine ⟨expected.merge expected', ?_⟩
  rw [Peg.run, run]
  simp only [shorter, if_true, run', Result.after]

theorem Matches.nested (within : inside.Matches spare cursor trees rest) :
    (Peg.nested inside).Matches (spare + 1) cursor trees rest := by
  obtain ⟨expected, run⟩ := within
  exact ⟨expected, by rw [Peg.run]; exact run⟩

theorem Fails.rule (body : name.body.Fails spare cursor) :
    (Peg.rule name).Fails spare cursor := by
  obtain ⟨expected, run⟩ := body
  exact ⟨expected, by rw [Peg.run, run]; rfl⟩

theorem Fails.sequence (refused : first.Fails spare cursor) :
    (first.sequence second).Fails spare cursor := by
  obtain ⟨expected, run⟩ := refused
  exact ⟨expected, by rw [Peg.run, run, Result.andThen]⟩

theorem Fails.behind (before : first.Matches spare cursor trees place)
    (refused : second.Fails spare place) : (first.sequence second).Fails spare cursor := by
  obtain ⟨expected, run⟩ := before
  obtain ⟨expected', run'⟩ := refused
  exact ⟨expected.merge expected', by rw [Peg.run, run, Result.andThen, run', Result.after]⟩

theorem Fails.choice (refused : first.Fails spare cursor) (other : second.Fails spare cursor) :
    (first.choice second).Fails spare cursor := by
  obtain ⟨expected, run⟩ := refused
  obtain ⟨expected', run'⟩ := other
  exact ⟨expected.merge expected', by rw [Peg.run, run, Result.orElse, run', Result.after]⟩

theorem Fails.nested (refused : inside.Fails spare cursor) :
    (Peg.nested inside).Fails (spare + 1) cursor := by
  obtain ⟨expected, run⟩ := refused
  exact ⟨expected, by rw [Peg.run]; exact run⟩

end Peg

/-! ## What a whole tells of its parts -/

namespace Peg

theorem Matches.of_rule (matched : (Peg.rule name).Matches spare cursor trees rest) :
    ∃ inner, trees = [.node name inner] ∧ name.body.Matches spare cursor inner rest := by
  obtain ⟨expected, run⟩ := matched
  rw [Peg.run] at run
  cases body : name.body.run spare cursor with
  | matched inner rest' expected' =>
      rw [body, Result.under, Result.matched.injEq] at run
      obtain ⟨rfl, rfl, -⟩ := run
      exact ⟨inner, rfl, expected', body⟩
  | failed expected' => simp [body, Result.under] at run
  | exhausted => simp [body, Result.under] at run

theorem Matches.of_sequence (matched : (first.sequence second).Matches spare cursor trees rest) :
    ∃ before place behind, trees = before ++ behind ∧
      first.Matches spare cursor before place ∧ second.Matches spare place behind rest := by
  obtain ⟨expected, run⟩ := matched
  rw [Peg.run] at run
  cases one : first.run spare cursor with
  | matched before place expected' =>
      rw [one, Result.andThen] at run
      cases other : second.run spare place with
      | matched behind rest' expected'' =>
          rw [other, Result.after, Result.matched.injEq] at run
          obtain ⟨rfl, rfl, -⟩ := run
          exact ⟨before, place, behind, rfl, ⟨expected', one⟩, ⟨expected'', other⟩⟩
      | failed expected'' => simp [other, Result.after] at run
      | exhausted => simp [other, Result.after] at run
  | failed expected' => simp [one, Result.andThen] at run
  | exhausted => simp [one, Result.andThen] at run

theorem Matches.of_choice (matched : (first.choice second).Matches spare cursor trees rest) :
    first.Matches spare cursor trees rest ∨
      (first.Fails spare cursor ∧ second.Matches spare cursor trees rest) := by
  obtain ⟨expected, run⟩ := matched
  rw [Peg.run] at run
  cases one : first.run spare cursor with
  | matched trees' rest' expected' =>
      rw [one, Result.orElse.eq_2 _ _ (by simp)] at run
      exact Or.inl ⟨expected, one.trans run⟩
  | failed expected' =>
      rw [one, Result.orElse] at run
      cases other : second.run spare cursor with
      | matched trees' rest' expected'' =>
          rw [other, Result.after, List.nil_append, Result.matched.injEq] at run
          obtain ⟨rfl, rfl, -⟩ := run
          exact Or.inr ⟨⟨expected', one⟩, ⟨expected'', other⟩⟩
      | failed expected'' => simp [other, Result.after] at run
      | exhausted => simp [other, Result.after] at run
  | exhausted => simp [one, Result.orElse] at run

/-- Repetition stops at a failure, or where it would not move. -/
theorem Matches.of_many (matched : (Peg.many repeated).Matches spare cursor trees rest) :
    (trees = [] ∧ rest = cursor) ∨ repeated.Matches spare cursor trees rest ∨
      ∃ once place again, trees = once ++ again ∧ repeated.Matches spare cursor once place ∧
        place.ahead.length < cursor.ahead.length ∧
          (Peg.many repeated).Matches spare place again rest := by
  obtain ⟨expected, run⟩ := matched
  rw [Peg.run] at run
  cases one : repeated.run spare cursor with
  | matched once place expected' =>
      rw [one] at run
      by_cases shorter : place.ahead.length < cursor.ahead.length
      · simp only [shorter, if_true] at run
        cases other : (Peg.many repeated).run spare place with
        | matched again rest' expected'' =>
            rw [other, Result.after, Result.matched.injEq] at run
            obtain ⟨rfl, rfl, -⟩ := run
            exact Or.inr <| Or.inr
              ⟨once, place, again, rfl, ⟨expected', one⟩, shorter, ⟨expected'', other⟩⟩
        | failed expected'' => simp [other, Result.after] at run
        | exhausted => simp [other, Result.after] at run
      · simp only [shorter, if_false, Result.matched.injEq] at run
        obtain ⟨rfl, rfl, -⟩ := run
        exact Or.inr (Or.inl ⟨expected', one⟩)
  | failed expected' =>
      rw [one, Result.matched.injEq] at run
      obtain ⟨rfl, rfl, -⟩ := run
      exact Or.inl ⟨rfl, rfl⟩
  | exhausted => simp [one] at run

theorem Matches.of_nested (matched : (Peg.nested inside).Matches spare cursor trees rest) :
    ∃ less, spare = less + 1 ∧ inside.Matches less cursor trees rest := by
  obtain ⟨expected, run⟩ := matched
  cases spare with
  | zero => simp [Peg.run] at run
  | succ less =>
      rw [Peg.run] at run
      exact ⟨less, rfl, expected, run⟩

end Peg

/-! ## Runs that are not given up -/

/-- A run that is not given up does not give up its first part. -/
theorem Peg.run_body_ne_exhausted (given : (Peg.rule name).run spare cursor ≠ .exhausted) :
    name.body.run spare cursor ≠ .exhausted := by
  intro body
  apply given
  rw [Peg.run, body]
  rfl

theorem Peg.run_first_ne_exhausted
    (given : (first.sequence second).run spare cursor ≠ .exhausted) :
    first.run spare cursor ≠ .exhausted := by
  intro before
  apply given
  rw [Peg.run, before]
  rfl

theorem Peg.run_left_ne_exhausted
    (given : (first.choice second).run spare cursor ≠ .exhausted) :
    first.run spare cursor ≠ .exhausted := by
  intro before
  apply given
  rw [Peg.run, before]
  rfl

theorem Peg.run_repeated_ne_exhausted
    (given : (Peg.many repeated).run spare cursor ≠ .exhausted) :
    repeated.run spare cursor ≠ .exhausted := by
  intro before
  apply given
  rw [Peg.run, before]

/-! ## More room -/

theorem Result.after_eq_exhausted_iff (expected : Expected) (result : Result) :
    result.after trees expected = .exhausted ↔ result = .exhausted := by
  cases result <;> simp [Result.after]

/-- A run that is not given up does not depend on how many further constructs may be open. -/
theorem Peg.run_eq_of_le {expression : Peg} {spare more : Nat} (enough : spare ≤ more)
    (settled : expression.run spare cursor ≠ .exhausted) :
    expression.run more cursor = expression.run spare cursor := by
  -- by the recursion of the run: `settled` passes to the parts that are run, so each of them
  -- stays the same and the whole does
  induction spare, expression, cursor using Peg.run.induct generalizing more with
  | case1 spare cursor kind => rw [Peg.run, Peg.run]
  | case2 spare cursor name inductionHypothesis =>
      have body := inductionHypothesis enough (Peg.run_body_ne_exhausted settled)
      rw [Peg.run, Peg.run, body]
  | case3 spare cursor first second firstHypothesis secondHypothesis =>
      have before := firstHypothesis enough (Peg.run_first_ne_exhausted settled)
      rw [Peg.run] at settled
      rw [Peg.run, Peg.run, before]
      cases run : first.run spare cursor with
      | matched trees rest expected =>
          rw [run, Result.andThen, ne_eq, Result.after_eq_exhausted_iff] at settled
          simp only [Result.andThen, secondHypothesis rest enough settled]
      | failed expected => rfl
      | exhausted => rfl
  | case4 spare cursor first second firstHypothesis secondHypothesis =>
      have before := firstHypothesis enough (Peg.run_left_ne_exhausted settled)
      rw [Peg.run] at settled
      rw [Peg.run, Peg.run, before]
      cases run : first.run spare cursor with
      | failed expected =>
          rw [run, Result.orElse, ne_eq, Result.after_eq_exhausted_iff] at settled
          simp only [Result.orElse, secondHypothesis enough settled]
      | matched trees rest expected => rfl
      | exhausted => rfl
  | case5 spare cursor repeated trees rest expected run shorter onceHypothesis moreHypothesis =>
      have once := onceHypothesis enough (by simp [run])
      rw [Peg.run, run] at settled
      simp only [shorter, if_true, ne_eq, Result.after_eq_exhausted_iff] at settled
      have again := moreHypothesis enough settled
      rw [Peg.run, once, run]
      conv => rhs; rw [Peg.run, run]
      simp only [shorter, if_true, again]
  | case6 spare cursor repeated trees rest expected run stuck onceHypothesis =>
      have once := onceHypothesis enough (by simp [run])
      rw [Peg.run, once, run]
      conv => rhs; rw [Peg.run, run]
      simp only [stuck, if_false]
  | case7 spare cursor repeated expected run onceHypothesis =>
      have once := onceHypothesis enough (by simp [run])
      rw [Peg.run, once, run]
      conv => rhs; rw [Peg.run, run]
  | case8 spare cursor repeated run onceHypothesis =>
      exact absurd (by rw [Peg.run, run]) settled
  | case9 cursor inside => exact absurd (by rw [Peg.run]) settled
  | case10 cursor inside spare inductionHypothesis =>
      obtain ⟨more, rfl⟩ : ∃ less, more = less + 1 := ⟨more - 1, by omega⟩
      have within : inside.run spare cursor ≠ .exhausted := by
        rw [Peg.run] at settled
        exact settled
      rw [Peg.run, Peg.run]
      exact inductionHypothesis (by omega) within

end Reckon.Grammar
