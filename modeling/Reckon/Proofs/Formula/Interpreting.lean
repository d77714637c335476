import Mathlib
import Reckon.Proofs.Formula.Misreading
import Reckon.Proofs.Grammar.Course
import Reckon.Proofs.Grammar.Noting

/-!
# Bounds and memories of readers

Reading a whole text opens no more constructs at once than its nesting depth tells, so a reader's
guard also bounds how deep its reading goes (`Reader.open_within_depth`).  A memory changes neither
what is read nor what is expected where reading fails (`Reader.remembering_alike`).
-/

namespace Reckon.Reader

open Grammar (Nesting Result Rule Terminal)

/-- The course of reading a whole text stays within the depth of the text. -/
theorem exists_course_formula (text : List Char) :
    ∃ result count, Rule.formula.body.Course (.start text) result count ∧
      count ≤ Nesting.depth text := by
  have given := Grammar.run_formula_ne_exhausted (Nat.le_refl (Nesting.depth text))
  obtain ⟨count, within, course⟩ := Grammar.Peg.exists_course given
  exact ⟨_, count, course, within⟩

/-- With enough room for its open constructs a run with memory takes the same course. -/
theorem runWithMemory_of_course {text : List Char} {result : Result} {count spare : Nat}
    (course : Rule.formula.body.Course (.start text) result count) (enough : count ≤ spare) :
    Rule.formula.body.runWithMemory spare text = result := by
  have run := course.run_of_le enough
  have given : Rule.formula.body.run spare (.start text) ≠ .exhausted := by
    rw [run]
    exact course.ne_exhausted
  rw [Grammar.Peg.runWithMemory_eq given, run]

/-- A reader whose capacity reaches as far as its limit follows the course of every text that it
lets through. -/
theorem result_of_course {reader : Reader} {text : List Char} {result : Result} {count : Nat}
    (course : Rule.formula.body.Course (.start text) result count)
    (enough : count ≤ reader.capacity) : reader.result text = result := by
  unfold Reader.result
  dsimp only
  split
  · exact runWithMemory_of_course course enough
  · exact course.run_of_le enough

theorem read_eq_of_result_eq {reader other : Reader} {text : String}
    (limit : reader.limit = other.limit)
    (same : reader.result text.toList = other.result text.toList) :
    reader.read text = other.read text := by
  simp only [read, parseTree, tooDeep, limit, same]

/-- On every text, formula or not, reading goes one way, and in none of the alternatives tried on
it are more constructs open at once than the nesting depth of the text.  A bounded run ends like
the unbounded reading if its bound allows the constructs that are open at once, and otherwise it is
given up; so with a bound from the depth on it ends alike, with a memory as well as without, and a
reader that lets a text through opens no more constructs than its limit. -/
theorem open_within_depth (text : List Char) :
    ∃ result count, Rule.formula.body.Course (.start text) result count ∧
      (∀ result' count', Rule.formula.body.Course (.start text) result' count' →
        result' = result ∧ count' = count) ∧
      count ≤ Nesting.depth text ∧
      (∀ spare, Rule.formula.body.run spare (.start text) =
        if count ≤ spare then result else .exhausted) ∧
      (∀ spare, Nesting.depth text ≤ spare →
        Rule.formula.body.run spare (.start text) = result ∧
        Rule.formula.body.runWithMemory spare text = result) ∧
      ∀ reader : Reader, Nesting.depth text ≤ reader.limit →
        count ≤ reader.limit ∧
        (reader.limit ≤ reader.capacity → reader.result text = result) := by
  obtain ⟨result, count, course, within⟩ := exists_course_formula text
  refine ⟨result, count, course, fun _ _ other => course.unique other, within, fun spare => ?_,
    fun spare room => ?_, fun reader shallow => ?_⟩
  · split
    · rename_i enough
      exact course.run_of_le enough
    · rename_i short
      exact course.run_of_lt (Nat.lt_of_not_le short)
  · have enough : count ≤ spare := Nat.le_trans within room
    exact ⟨course.run_of_le enough, runWithMemory_of_course course enough⟩
  · refine ⟨by omega, fun reaches => ?_⟩
    exact result_of_course course (by omega)

/-- The misread text `(!(1` opens three constructs, and reading it is given up with room for two
of them only. -/
theorem open_unclosed :
    Nesting.depth "(!(1".toList = 3 ∧
      ∃ result, Rule.formula.body.Course (.start "(!(1".toList) result 3 ∧
        Rule.formula.body.run 2 (.start "(!(1".toList) = .exhausted ∧
        Rule.formula.body.run 3 (.start "(!(1".toList) = result ∧
        Rule.formula.body.runWithMemory 3 "(!(1".toList = result ∧
        ({ limit := 3 } : Reader).result "(!(1".toList = result := by
  have depth : Nesting.depth "(!(1".toList = 3 := by decide
  have short : Rule.formula.body.run 2 (.start "(!(1".toList) = .exhausted := by cbv
  obtain ⟨result, count, course, -, within, bounded, room, readers⟩ :=
    open_within_depth "(!(1".toList
  have three : count = 3 := by
    have more : ¬count ≤ 2 := by
      intro enough
      rw [bounded, if_pos enough] at short
      exact course.ne_exhausted short
    omega
  subst three
  have enough : Nesting.depth "(!(1".toList ≤ 3 := Nat.le_of_eq depth
  obtain ⟨-, same⟩ := readers { limit := 3 } (by rw [depth]; decide)
  exact ⟨depth, result, course, short, (room 3 enough).1, (room 3 enough).2, same (by decide)⟩

/-- Reading with a memory is reading: whatever the text, it ends with the same trees or the same
record as reading without one, also if every failure is noted in one record and its terminals are
listed once in the end.  Hence readers that differ in their memory only give the same formula or
the same fault. -/
theorem remembering_alike (text : String) :
    (∃ result count, Rule.formula.body.Course (.start text.toList) result count ∧
      ∀ spare, Nesting.depth text.toList ≤ spare →
        Rule.formula.body.run spare (.start text.toList) = result ∧
        Rule.formula.body.runWithMemory spare text.toList = result ∧
        ∀ remembers, Rule.formula.body.resultNoting remembers spare text.toList = result) ∧
    ∀ (limit : Int) (capacity : Nat), limit ≤ capacity →
      ({ limit, capacity, packrat := true } : Reader).read text =
        ({ limit, capacity, packrat := false } : Reader).read text := by
  obtain ⟨result, count, course, within⟩ := exists_course_formula text.toList
  refine ⟨⟨result, count, course, fun spare room => ?_⟩, fun limit capacity reaches => ?_⟩
  · have enough : count ≤ spare := Nat.le_trans within room
    have run := course.run_of_le enough
    refine ⟨run, runWithMemory_of_course course enough, fun remembers => ?_⟩
    have given : Rule.formula.body.run spare (.start text.toList) ≠ .exhausted := by
      rw [run]
      exact course.ne_exhausted
    rw [Grammar.Peg.resultNoting_eq given, run]
  · by_cases deep : limit < Nesting.depth text.toList
    · rw [@read_of_deep { limit, capacity, packrat := true } _ deep,
        @read_of_deep { limit, capacity, packrat := false } _ deep]
    · have enough : count ≤ capacity := by omega
      refine read_eq_of_result_eq rfl ?_
      rw [@result_of_course { limit, capacity, packrat := true } _ _ _ course enough,
        @result_of_course { limit, capacity, packrat := false } _ _ _ course enough]

/-- Where `f(1` ends, the second kind of call fails like the first one did.  Without a memory all
its failures are noted again, with one only the failure of the closing parenthesis is. -/
theorem remembering_unclosedCall :
    (Rule.formula.body.runNoting false 1 (.start "f(1".toList) .empty).2.expected.terminals.length =
      20 ∧
    (Rule.formula.body.runNoting true 1 (.start "f(1".toList) .empty).2.expected.terminals.length =
      11 ∧
    ∃ expected : Grammar.Expected, expected.position = 3 ∧
      Rule.formula.body.resultNoting false 1 "f(1".toList = .failed expected ∧
      Rule.formula.body.resultNoting true 1 "f(1".toList = .failed expected ∧
      Rule.formula.body.runWithMemory 1 "f(1".toList = .failed expected ∧
      ({ limit := 16, packrat := true } : Reader).read "f(1" =
        ({ limit := 16, packrat := false } : Reader).read "f(1" := by
  let expected : Grammar.Expected :=
    { position := 3
      terminals := Grammar.Standing.operators ++ [.comma, .closeParenthesis] }
  have run : Rule.formula.body.run 1 (.start "f(1".toList) = .failed expected := by cbv
  have enough : Nesting.depth "f(1".toList ≤ 1 := by decide
  obtain ⟨⟨result, count, -, alike⟩, readers⟩ := remembering_alike "f(1"
  obtain ⟨plain, remembered, noted⟩ := alike 1 enough
  obtain rfl : Result.failed expected = result := run.symm.trans plain
  exact ⟨by cbv, by cbv, expected, rfl, noted false, noted true, remembered,
    readers 16 256 (by decide)⟩

end Reckon.Reader
