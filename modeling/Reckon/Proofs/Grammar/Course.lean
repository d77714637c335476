import Reckon.Proofs.Grammar.Run

/-!
# Open constructs

`Peg.Course` is reading without any bound.  It counts the constructs that are open at once on the
way: the least bound under which a run gets through (`Peg.Course.run_of_le`,
`Peg.Course.run_of_lt`).  Whatever a bounded run gets through has a course that opens no more than
the bound allows (`Peg.exists_course`).
-/

namespace Reckon.Grammar

/-- How reading by an expression goes: how it ends, and the most constructs that are open at once
on the way, in alternatives that are given up later too.  A construct is open from where its prefix
operator or its opening parenthesis has been read until what `Peg.nested` marks behind it has
matched or failed. -/
inductive Peg.Course : Peg → Cursor → Result → Nat → Prop
  | terminal (kind : Terminal) (cursor : Cursor) :
      Course (.terminal kind) cursor (kind.run cursor) 0
  | rule {name : Rule} {cursor : Cursor} {result : Result} {count : Nat} :
      Course name.body cursor result count →
      Course (.rule name) cursor (result.under name) count
  | sequence {first second : Peg} {cursor rest : Cursor} {trees : List ParseTree}
      {expected : Expected} {result : Result} {count more : Nat} :
      Course first cursor (.matched trees rest expected) count →
      Course second rest result more →
      Course (.sequence first second) cursor (result.after trees expected) (max count more)
  | refused {first second : Peg} {cursor : Cursor} {expected : Expected} {count : Nat} :
      Course first cursor (.failed expected) count →
      Course (.sequence first second) cursor (.failed expected) count
  | left {first second : Peg} {cursor rest : Cursor} {trees : List ParseTree}
      {expected : Expected} {count : Nat} :
      Course first cursor (.matched trees rest expected) count →
      Course (.choice first second) cursor (.matched trees rest expected) count
  | right {first second : Peg} {cursor : Cursor} {expected : Expected} {result : Result}
      {count more : Nat} :
      Course first cursor (.failed expected) count →
      Course second cursor result more →
      Course (.choice first second) cursor (result.after [] expected) (max count more)
  | again {repeated : Peg} {cursor rest : Cursor} {trees : List ParseTree} {expected : Expected}
      {result : Result} {count more : Nat} :
      Course repeated cursor (.matched trees rest expected) count →
      rest.ahead.length < cursor.ahead.length →
      Course (.many repeated) rest result more →
      Course (.many repeated) cursor (result.after trees expected) (max count more)
  | stuck {repeated : Peg} {cursor rest : Cursor} {trees : List ParseTree} {expected : Expected}
      {count : Nat} :
      Course repeated cursor (.matched trees rest expected) count →
      ¬rest.ahead.length < cursor.ahead.length →
      Course (.many repeated) cursor (.matched trees rest expected) count
  | stop {repeated : Peg} {cursor : Cursor} {expected : Expected} {count : Nat} :
      Course repeated cursor (.failed expected) count →
      Course (.many repeated) cursor (.matched [] cursor expected) count
  | nested {inside : Peg} {cursor : Cursor} {result : Result} {count : Nat} :
      Course inside cursor result count →
      Course (.nested inside) cursor result (count + 1)

namespace Peg

variable {expression : Peg} {cursor : Cursor} {result : Result} {count spare : Nat}

/-! ## Bounded runs -/

/-- A run with room for everything that is opened ends like the course. -/
theorem Course.run_of_le (course : expression.Course cursor result count)
    (enough : count ≤ spare) : expression.run spare cursor = result := by
  induction course generalizing spare with
  | terminal kind cursor => rw [Peg.run]
  | rule _ body => rw [Peg.run, body enough]
  | sequence _ _ before behind =>
      obtain ⟨enough, enough'⟩ := Nat.max_le.mp enough
      rw [Peg.run, before enough, Result.andThen, behind enough']
  | refused _ before => rw [Peg.run, before enough, Result.andThen]
  | left _ chosen =>
      rw [Peg.run, chosen enough, Result.orElse]
      simp
  | right _ _ before chosen =>
      obtain ⟨enough, enough'⟩ := Nat.max_le.mp enough
      rw [Peg.run, before enough, Result.orElse, chosen enough']
  | again _ shorter _ once again =>
      obtain ⟨enough, enough'⟩ := Nat.max_le.mp enough
      rw [Peg.run, once enough]
      simp only [shorter, if_true, again enough']
  | stuck _ still once =>
      rw [Peg.run, once enough]
      simp only [still, if_false]
  | stop _ once => rw [Peg.run, once enough]
  | @nested inside cursor result count _ within =>
      obtain ⟨fewer, rfl⟩ : ∃ fewer, spare = fewer + 1 := ⟨spare - 1, by omega⟩
      rw [Peg.run]
      exact within (Nat.le_of_succ_le_succ enough)

/-- A run is given up if the course opens more than it has room for. -/
theorem Course.run_of_lt (course : expression.Course cursor result count)
    (short : spare < count) : expression.run spare cursor = .exhausted := by
  induction course generalizing spare with
  | terminal kind cursor => exact absurd short (Nat.not_lt_zero spare)
  | rule _ body => rw [Peg.run, body short, Result.under]; simp
  | @sequence first second cursor rest trees expected result count more one _ before behind =>
      rw [Peg.run]
      by_cases enough : count ≤ spare
      · have short' : spare < more := by omega
        rw [one.run_of_le enough, Result.andThen, behind short', Result.after]
      · rw [before (Nat.lt_of_not_le enough), Result.andThen]
  | refused _ before => rw [Peg.run, before short, Result.andThen]
  | left _ chosen =>
      rw [Peg.run, chosen short, Result.orElse]
      simp
  | @right first second cursor expected result count more one _ before chosen =>
      rw [Peg.run]
      by_cases enough : count ≤ spare
      · have short' : spare < more := by omega
        rw [one.run_of_le enough, Result.orElse, chosen short', Result.after]
      · rw [before (Nat.lt_of_not_le enough), Result.orElse]
        simp
  | @again repeated cursor rest trees expected result count more one shorter _ once again =>
      rw [Peg.run]
      by_cases enough : count ≤ spare
      · have short' : spare < more := by omega
        rw [one.run_of_le enough]
        simp only [shorter, if_true, again short', Result.after]
      · rw [once (Nat.lt_of_not_le enough)]
  | stuck _ _ once => rw [Peg.run, once short]
  | stop _ once => rw [Peg.run, once short]
  | nested _ within =>
      cases spare with
      | zero => rw [Peg.run]
      | succ fewer =>
          rw [Peg.run]
          exact within (Nat.lt_of_succ_lt_succ short)

/-- A course is that of a run which comes to its end. -/
theorem Course.ne_exhausted (course : expression.Course cursor result count) :
    result ≠ .exhausted := by
  induction course with
  | terminal kind cursor =>
      rw [Terminal.run]
      cases kind.take? (cursor.skipWhile isBlank).ahead <;> simp
  | @rule name cursor result count _ body =>
      cases result with
      | exhausted => exact absurd rfl body
      | _ => simp [Result.under]
  | sequence _ _ _ behind =>
      rw [ne_eq, Result.after_eq_exhausted_iff]
      exact behind
  | right _ _ _ chosen =>
      rw [ne_eq, Result.after_eq_exhausted_iff]
      exact chosen
  | again _ _ _ _ again =>
      rw [ne_eq, Result.after_eq_exhausted_iff]
      exact again
  | nested _ within => exact within
  | refused | left | stuck | stop => simp

/-- A run with room for less than the course opens is given up, so no two courses differ. -/
theorem Course.count_le {result' : Result} {count' : Nat}
    (course : expression.Course cursor result count)
    (course' : expression.Course cursor result' count') : count ≤ count' := by
  refine Nat.le_of_not_lt fun more => ?_
  have enough := course'.run_of_le (Nat.le_refl count')
  have short := course.run_of_lt more
  exact course'.ne_exhausted (enough.symm.trans short)

/-- A run has one course, and with it one greatest number of open constructs. -/
theorem Course.unique {result' : Result} {count' : Nat}
    (course : expression.Course cursor result count)
    (course' : expression.Course cursor result' count') : result' = result ∧ count' = count := by
  have same := Nat.le_antisymm (course'.count_le course) (course.count_le course')
  subst same
  have one := course.run_of_le (Nat.le_refl count')
  have other := course'.run_of_le (Nat.le_refl count')
  exact ⟨other.symm.trans one, rfl⟩

/-- Whatever a run gets through has a course, which opens no more than the run has room for. -/
theorem exists_course (given : expression.run spare cursor ≠ .exhausted) :
    ∃ count ≤ spare, expression.Course cursor (expression.run spare cursor) count := by
  induction spare, expression, cursor using Peg.run.induct with
  | case1 spare cursor kind =>
      refine ⟨0, Nat.zero_le spare, ?_⟩
      rw [Peg.run]
      exact .terminal kind cursor
  | case2 spare cursor name inductionHypothesis =>
      obtain ⟨count, enough, body⟩ := inductionHypothesis (Peg.run_body_ne_exhausted given)
      refine ⟨count, enough, ?_⟩
      rw [Peg.run]
      exact body.rule
  | case3 spare cursor first second firstHypothesis secondHypothesis =>
      obtain ⟨count, enough, before⟩ := firstHypothesis (Peg.run_first_ne_exhausted given)
      rw [Peg.run] at given ⊢
      cases run : first.run spare cursor with
      | matched trees rest expected =>
          rw [run] at before
          rw [run, Result.andThen, ne_eq, Result.after_eq_exhausted_iff] at given
          obtain ⟨more, enough', behind⟩ := secondHypothesis rest given
          exact ⟨max count more, Nat.max_le.mpr ⟨enough, enough'⟩, before.sequence behind⟩
      | failed expected =>
          rw [run] at before
          exact ⟨count, enough, before.refused⟩
      | exhausted => exact absurd (by rw [run, Result.andThen]) given
  | case4 spare cursor first second firstHypothesis secondHypothesis =>
      obtain ⟨count, enough, before⟩ := firstHypothesis (Peg.run_left_ne_exhausted given)
      rw [Peg.run] at given ⊢
      cases run : first.run spare cursor with
      | matched trees rest expected =>
          rw [run] at before
          exact ⟨count, enough, before.left⟩
      | failed expected =>
          rw [run] at before
          rw [run, Result.orElse, ne_eq, Result.after_eq_exhausted_iff] at given
          obtain ⟨more, enough', chosen⟩ := secondHypothesis given
          exact ⟨max count more, Nat.max_le.mpr ⟨enough, enough'⟩, before.right chosen⟩
      | exhausted => exact absurd (by rw [run]; rfl) given
  | case5 spare cursor repeated trees rest expected run shorter onceHypothesis moreHypothesis =>
      obtain ⟨count, enough, once⟩ := onceHypothesis (by simp [run])
      rw [Peg.run, run] at given ⊢
      rw [run] at once
      simp only [shorter, if_true, ne_eq, Result.after_eq_exhausted_iff] at given ⊢
      obtain ⟨more, enough', again⟩ := moreHypothesis given
      exact ⟨max count more, Nat.max_le.mpr ⟨enough, enough'⟩, once.again shorter again⟩
  | case6 spare cursor repeated trees rest expected run still onceHypothesis =>
      obtain ⟨count, enough, once⟩ := onceHypothesis (by simp [run])
      rw [run] at once
      refine ⟨count, enough, ?_⟩
      rw [Peg.run, run]
      simp only [still, if_false]
      exact once.stuck still
  | case7 spare cursor repeated expected run onceHypothesis =>
      obtain ⟨count, enough, once⟩ := onceHypothesis (by simp [run])
      rw [run] at once
      refine ⟨count, enough, ?_⟩
      rw [Peg.run, run]
      exact once.stop
  | case8 spare cursor repeated run onceHypothesis =>
      exact absurd (by rw [Peg.run, run]) given
  | case9 cursor inside => exact absurd (by rw [Peg.run]) given
  | case10 cursor inside spare inductionHypothesis =>
      rw [Peg.run] at given ⊢
      obtain ⟨count, enough, within⟩ := inductionHypothesis given
      exact ⟨count + 1, Nat.succ_le_succ enough, within.nested⟩

end Peg

end Reckon.Grammar
