import Reckon.Proofs.Grammar.Run

/-!
# What expressions settle on

An expression settles on the result of its runs that are not given up.  There is at most one
(`Peg.Settles.unique`), and what the parts of an expression settle on tells what the whole
expression settles on.
-/

namespace Reckon.Grammar

variable {cursor rest : Cursor} {trees : List ParseTree}

/-- An expression has a result at a place if enough constructs may be open. -/
def Peg.Settles (expression : Peg) (cursor : Cursor) (result : Result) : Prop :=
  ∃ spare, expression.run spare cursor = result ∧ result ≠ .exhausted

/-- Runs that have room enough agree, whatever their room. -/
theorem Peg.Settles.unique {expression : Peg} {one other : Result}
    (settled : expression.Settles cursor one) (settled' : expression.Settles cursor other) :
    one = other := by
  obtain ⟨spare, rfl, given⟩ := settled
  obtain ⟨spare', rfl, given'⟩ := settled'
  rw [← Peg.run_eq_of_le (Nat.le_max_left spare spare') given,
    ← Peg.run_eq_of_le (Nat.le_max_right spare spare') given']

/-- A match without its record is that of a settled run. -/
theorem Peg.Matches.settles {spare : Nat} {expression : Peg}
    (matched : expression.Matches spare cursor trees rest) :
    ∃ expected, expression.Settles cursor (.matched trees rest expected) := by
  obtain ⟨expected, run⟩ := matched
  exact ⟨expected, spare, run, by simp⟩

/-! ## Parts and wholes -/

namespace Peg.Settles

variable {first second repeated inside : Peg} {cursor rest : Cursor} {name : Rule}
  {trees : List ParseTree} {expected : Expected} {result : Result}

theorem ne_exhausted {expression : Peg} (settled : expression.Settles cursor result) :
    result ≠ .exhausted :=
  settled.choose_spec.2

/-- Two expressions get through with the same room. -/
theorem together {result' : Result} (one : first.Settles cursor result)
    (other : second.Settles rest result') :
    ∃ spare, first.run spare cursor = result ∧ second.run spare rest = result' := by
  obtain ⟨spare, rfl, given⟩ := one
  obtain ⟨spare', rfl, given'⟩ := other
  exact ⟨max spare spare', Peg.run_eq_of_le (Nat.le_max_left _ _) given,
    Peg.run_eq_of_le (Nat.le_max_right _ _) given'⟩

theorem rule (body : name.body.Settles cursor result) :
    (Peg.rule name).Settles cursor (result.under name) := by
  obtain ⟨spare, run, given⟩ := body
  refine ⟨spare, by rw [Peg.run, run], ?_⟩
  cases result <;> simp_all [Result.under]

theorem sequence (before : first.Settles cursor (.matched trees rest expected))
    (behind : second.Settles rest result) :
    (first.sequence second).Settles cursor (result.after trees expected) := by
  obtain ⟨spare, run, run'⟩ := before.together behind
  refine ⟨spare, by rw [Peg.run, run, Result.andThen, run'], ?_⟩
  rw [ne_eq, Result.after_eq_exhausted_iff]
  exact behind.ne_exhausted

theorem refused (before : first.Settles cursor (.failed expected)) :
    (first.sequence second).Settles cursor (.failed expected) := by
  obtain ⟨spare, run, -⟩ := before
  exact ⟨spare, by rw [Peg.run, run, Result.andThen], by simp⟩

theorem left (chosen : first.Settles cursor (.matched trees rest expected)) :
    (first.choice second).Settles cursor (.matched trees rest expected) := by
  obtain ⟨spare, run, -⟩ := chosen
  exact ⟨spare, by rw [Peg.run, run, Result.orElse]; simp, by simp⟩

theorem right (before : first.Settles cursor (.failed expected))
    (chosen : second.Settles cursor result) :
    (first.choice second).Settles cursor (result.after [] expected) := by
  obtain ⟨spare, run, run'⟩ := before.together chosen
  refine ⟨spare, by rw [Peg.run, run, Result.orElse, run'], ?_⟩
  rw [ne_eq, Result.after_eq_exhausted_iff]
  exact chosen.ne_exhausted

theorem more (once : repeated.Settles cursor (.matched trees rest expected))
    (shorter : rest.ahead.length < cursor.ahead.length)
    (again : (Peg.many repeated).Settles rest result) :
    (Peg.many repeated).Settles cursor (result.after trees expected) := by
  obtain ⟨spare, run, run'⟩ := once.together again
  refine ⟨spare, by rw [Peg.run, run]; simp only [shorter, if_true, run'], ?_⟩
  rw [ne_eq, Result.after_eq_exhausted_iff]
  exact again.ne_exhausted

theorem stuck (once : repeated.Settles cursor (.matched trees rest expected))
    (still : ¬rest.ahead.length < cursor.ahead.length) :
    (Peg.many repeated).Settles cursor (.matched trees rest expected) := by
  obtain ⟨spare, run, -⟩ := once
  exact ⟨spare, by rw [Peg.run, run]; simp only [still, if_false], by simp⟩

theorem stop (once : repeated.Settles cursor (.failed expected)) :
    (Peg.many repeated).Settles cursor (.matched [] cursor expected) := by
  obtain ⟨spare, run, -⟩ := once
  exact ⟨spare, by rw [Peg.run, run], by simp⟩

theorem nested (within : inside.Settles cursor result) :
    (Peg.nested inside).Settles cursor result := by
  obtain ⟨spare, run, given⟩ := within
  exact ⟨spare + 1, by rw [Peg.run]; exact run, given⟩

end Peg.Settles

end Reckon.Grammar
