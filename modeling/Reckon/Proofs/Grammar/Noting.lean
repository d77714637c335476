import Reckon.Proofs.Grammar.Memory

/-!
# Noting every failure

`Peg.runNoting` reads with one record for all alternatives, in which a terminal is noted whenever it
fails: a failure further on starts the record anew, one at the same position is put behind the
others even if they list that terminal already, and an earlier one is left out.  It reads with a
memory or without.  Listing every terminal once makes no difference to how reading ends, and both
ways end alike (`Peg.resultNoting_eq`).
-/

namespace Reckon.Grammar

namespace Expected

/-- The record with one more failure. -/
def note (record : Expected) (position : Nat) (kind : Terminal) : Expected :=
  if record.position < position then
    .single position kind
  else if position = record.position then
    { record with terminals := record.terminals ++ [kind] }
  else
    record

/-- The record with every terminal listed once, in the order of their first failure. -/
def distinct (record : Expected) : Expected :=
  { record with terminals := record.terminals.eraseDups }

/-- Noting a terminal again does not change which ones were noted first. -/
theorem eraseDups_append_singleton (kinds : List Terminal) (kind : Terminal) :
    (kinds ++ [kind]).eraseDups = union kinds.eraseDups [kind] := by
  have alone : [kind].eraseDups = [kind] := rfl
  rw [List.eraseDups_append, union]
  by_cases listed : kind ∈ kinds
  · simp [List.removeAll, listed]
  · simp [List.removeAll, listed, alone]

/-- Noting a failure is merging it into what is listed once. -/
theorem distinct_note (record : Expected) (position : Nat) (kind : Terminal) :
    (record.note position kind).distinct = record.distinct.merge (.single position kind) := by
  have place : record.distinct.position = record.position := rfl
  rcases Nat.lt_trichotomy record.position position with before | same | behind
  · rw [note, if_pos before, merge_of_lt (by rwa [place])]
    rfl
  · rw [note, if_neg (by omega), if_pos same.symm, merge_of_eq (by rw [place]; exact same.symm),
      distinct, eraseDups_append_singleton]
    rfl
  · rw [note, if_neg (by omega), if_neg (by omega), merge_of_gt (by rwa [place])]

end Expected

namespace Packrat

def note (memory : Packrat) (position : Nat) (kind : Terminal) : Packrat :=
  { memory with expected := memory.expected.note position kind }

def distinct (memory : Packrat) : Packrat :=
  { memory with expected := memory.expected.distinct }

/-- Answer from memory if there is one, or else find out. -/
def consult (remembers : Bool) (memory : Packrat) (expression : Peg) (position : Nat)
    (attempt : Packrat → Outcome × Packrat) : Outcome × Packrat :=
  if remembers then memory.answer expression position attempt else attempt memory

end Packrat

/-- Read one word behind any blanks, or note that there is none. -/
def Terminal.runNoting (kind : Terminal) (cursor : Cursor) (memory : Packrat) :
    Outcome × Packrat :=
  let place := cursor.skipWhile isBlank
  match kind.take? place.ahead with
  | some word => (.matched (ParseTree.ofWord kind word) (place.advance word.length), memory)
  | none => (.failed, memory.note place.position kind)

/-- Read by a parsing expression, with a memory or without, and note every failure. -/
def Peg.runNoting (remembers : Bool) (spare : Nat) (expression : Peg) (cursor : Cursor)
    (memory : Packrat) : Outcome × Packrat :=
  match expression with
  | .terminal kind => kind.runNoting cursor memory
  | .rule name =>
      memory.consult remembers (.rule name) cursor.position fun memory =>
        let (outcome, memory) := Peg.runNoting remembers spare name.body cursor memory
        (outcome.under name, memory)
  | .sequence first second =>
      memory.consult remembers (.sequence first second) cursor.position fun memory =>
        match Peg.runNoting remembers spare first cursor memory with
        | (.matched trees rest, memory) =>
            let (outcome, memory) := Peg.runNoting remembers spare second rest memory
            (outcome.after trees, memory)
        | stopped => stopped
  | .choice first second =>
      memory.consult remembers (.choice first second) cursor.position fun memory =>
        match Peg.runNoting remembers spare first cursor memory with
        | (.failed, memory) => Peg.runNoting remembers spare second cursor memory
        | decided => decided
  | .many repeated =>
      memory.consult remembers (.many repeated) cursor.position fun memory =>
        match Peg.runNoting remembers spare repeated cursor memory with
        | (.matched trees rest, memory) =>
            if rest.ahead.length < cursor.ahead.length then
              let (outcome, memory) := Peg.runNoting remembers spare (.many repeated) rest memory
              (outcome.after trees, memory)
            else
              (.matched trees rest, memory)
        | (.failed, memory) => (.matched [] cursor, memory)
        | (.exhausted, memory) => (.exhausted, memory)
  | .nested inside =>
      memory.consult remembers (.nested inside) cursor.position fun memory =>
        match spare with
        | 0 => (.exhausted, memory)
        | spare + 1 => Peg.runNoting remembers spare inside cursor memory
termination_by (spare, expression.height, cursor.ahead.length)
decreasing_by
  all_goals simp [Prod.lex_def, Peg.height, Rule.height_body_lt]
  all_goals omega

/-- The result of reading a whole text, in which every expected terminal is listed once. -/
def Peg.resultNoting (remembers : Bool) (spare : Nat) (expression : Peg) (text : List Char) :
    Result :=
  match expression.runNoting remembers spare (.start text) .empty with
  | (.matched trees rest, memory) => .matched trees rest memory.expected.distinct
  | (.failed, memory) => .failed memory.expected.distinct
  | (.exhausted, _) => .exhausted

/-! ## With a memory -/

/-- An answer with every terminal of its record listed once. -/
def Packrat.listedOnce (answer : Outcome × Packrat) : Outcome × Packrat :=
  (answer.1, answer.2.distinct)

/-- A memory that notes every failure answers like one that notes each of them once. -/
theorem Packrat.listedOnce_consult {memory : Packrat} {expression : Peg} {position : Nat}
    {attempt other : Packrat → Outcome × Packrat}
    (same : listedOnce (attempt memory) = other memory.distinct) :
    listedOnce (memory.consult true expression position attempt) =
      memory.distinct.answer expression position other := by
  have known : memory.distinct.known = memory.known := rfl
  rw [consult, if_pos rfl, answer, answer, known]
  cases memory.known[(expression, position)]? with
  | some found =>
      rcases found with _ | ⟨trees, rest⟩ <;> rfl
  | none =>
      dsimp only
      rw [← same]
      rcases attempt memory with ⟨outcome, later⟩
      cases outcome <;> rfl

/-- Reading with a memory lists once what is noted. -/
theorem Peg.listedOnce_runNoting (spare : Nat) (expression : Peg) (cursor : Cursor)
    (memory : Packrat) :
    Packrat.listedOnce (expression.runNoting true spare cursor memory) =
      expression.runPackrat spare cursor memory.distinct := by
  match expression with
  | .terminal kind =>
      rw [Peg.runNoting, Peg.runPackrat, Terminal.runNoting, Terminal.runPackrat]
      cases kind.take? (cursor.skipWhile isBlank).ahead with
      | some word => rfl
      | none =>
          simp only [Packrat.listedOnce, Packrat.note, Packrat.distinct, Packrat.expect,
            Expected.distinct_note]
  | .rule name =>
      rw [Peg.runNoting, Peg.runPackrat]
      refine Packrat.listedOnce_consult ?_
      rw [← Peg.listedOnce_runNoting spare name.body cursor memory]
      rfl
  | .sequence first second =>
      rw [Peg.runNoting, Peg.runPackrat]
      refine Packrat.listedOnce_consult ?_
      rw [← Peg.listedOnce_runNoting spare first cursor memory]
      rcases first.runNoting true spare cursor memory with ⟨outcome, later⟩
      cases outcome with
      | matched trees rest =>
          dsimp only [Packrat.listedOnce]
          rw [← Peg.listedOnce_runNoting spare second rest later]
          rfl
      | failed => rfl
      | exhausted => rfl
  | .choice first second =>
      rw [Peg.runNoting, Peg.runPackrat]
      refine Packrat.listedOnce_consult ?_
      rw [← Peg.listedOnce_runNoting spare first cursor memory]
      rcases first.runNoting true spare cursor memory with ⟨outcome, later⟩
      cases outcome with
      | failed => exact Peg.listedOnce_runNoting spare second cursor later
      | matched trees rest => rfl
      | exhausted => rfl
  | .many repeated =>
      rw [Peg.runNoting, Peg.runPackrat]
      refine Packrat.listedOnce_consult ?_
      rw [← Peg.listedOnce_runNoting spare repeated cursor memory]
      rcases repeated.runNoting true spare cursor memory with ⟨outcome, later⟩
      cases outcome with
      | matched trees rest =>
          dsimp only [Packrat.listedOnce]
          by_cases shorter : rest.ahead.length < cursor.ahead.length
          · rw [if_pos shorter, if_pos shorter,
              ← Peg.listedOnce_runNoting spare (.many repeated) rest later]
            rfl
          · rw [if_neg shorter, if_neg shorter]
      | failed => rfl
      | exhausted => rfl
  | .nested inside =>
      rw [Peg.runNoting, Peg.runPackrat]
      refine Packrat.listedOnce_consult ?_
      cases spare with
      | zero => rfl
      | succ spare => exact Peg.listedOnce_runNoting spare inside cursor memory
termination_by (spare, expression.height, cursor.ahead.length)
decreasing_by
  all_goals simp [Prod.lex_def, Peg.height, Rule.height_body_lt]
  all_goals omega

/-! ## Without a memory -/

/-- An answer ends like a result, and what the result expects has been noted. -/
def Packrat.Notes (memory : Packrat) (result : Result) (answer : Outcome × Packrat) : Prop :=
  answer.1 = result.outcome ∧
    (result ≠ .exhausted →
      answer.2.expected.distinct = memory.expected.distinct.merge result.expected)

namespace Packrat.Notes

variable {memory later : Packrat} {trees : List ParseTree} {rest : Cursor} {expected : Expected}
  {result : Result} {answer : Outcome × Packrat}

theorem of_matched (notes : memory.Notes (.matched trees rest expected) answer) :
    ∃ later, answer = (.matched trees rest, later) ∧
      later.expected.distinct = memory.expected.distinct.merge expected :=
  ⟨answer.2, Prod.ext notes.1 rfl, notes.2 (by simp)⟩

theorem of_failed (notes : memory.Notes (.failed expected) answer) :
    ∃ later, answer = (.failed, later) ∧
      later.expected.distinct = memory.expected.distinct.merge expected :=
  ⟨answer.2, Prod.ext notes.1 rfl, notes.2 (by simp)⟩

theorem of_exhausted (notes : memory.Notes .exhausted answer) :
    ∃ later, answer = (.exhausted, later) :=
  ⟨answer.2, Prod.ext notes.1 rfl⟩

theorem exhausted (memory later : Packrat) : memory.Notes .exhausted (.exhausted, later) :=
  ⟨rfl, fun given => absurd rfl given⟩

/-- What follows a success, put behind its trees. -/
theorem after (notes : later.Notes result answer)
    (record : later.expected.distinct = memory.expected.distinct.merge expected) :
    memory.Notes (result.after trees expected) (answer.1.after trees, answer.2) := by
  refine ⟨by rw [Result.outcome_after, notes.1], fun given => ?_⟩
  have given' : result ≠ .exhausted := by
    intro exhausted
    exact given ((Result.after_eq_exhausted_iff expected result).mpr exhausted)
  rw [Result.expected_after _ _ given', notes.2 given', record, Expected.merge_assoc]

theorem under (name : Rule) (notes : memory.Notes result answer) :
    memory.Notes (result.under name) (answer.1.under name, answer.2) := by
  refine ⟨by rw [Result.outcome_under, notes.1], fun given => ?_⟩
  have given' : result ≠ .exhausted := by
    rintro rfl
    exact given rfl
  rw [Result.expected_under, notes.2 given']

end Packrat.Notes

/-- Reading without a memory notes what is expected. -/
theorem Peg.notes_runNoting (spare : Nat) (expression : Peg) (cursor : Cursor)
    (memory : Packrat) :
    memory.Notes (expression.run spare cursor)
      (expression.runNoting false spare cursor memory) := by
  match expression with
  | .terminal kind =>
      rw [Peg.runNoting, Peg.run, Terminal.runNoting, Terminal.run]
      cases kind.take? (cursor.skipWhile isBlank).ahead with
      | some word => exact ⟨rfl, fun _ => (Expected.merge_none _).symm⟩
      | none => exact ⟨rfl, fun _ => Expected.distinct_note _ _ _⟩
  | .rule name =>
      rw [Peg.runNoting, Peg.run]
      exact (Peg.notes_runNoting spare name.body cursor memory).under name
  | .sequence first second =>
      have one := Peg.notes_runNoting spare first cursor memory
      rw [Peg.runNoting, Peg.run, Packrat.consult, if_neg Bool.false_ne_true]
      cases run : first.run spare cursor with
      | matched trees rest expected =>
          rw [run] at one
          obtain ⟨later, noted, record⟩ := one.of_matched
          rw [noted]
          exact (Peg.notes_runNoting spare second rest later).after record
      | failed expected =>
          rw [run] at one
          obtain ⟨later, noted, record⟩ := one.of_failed
          rw [noted]
          exact ⟨rfl, fun _ => record⟩
      | exhausted =>
          rw [run] at one
          obtain ⟨later, noted⟩ := one.of_exhausted
          rw [noted]
          exact .exhausted memory later
  | .choice first second =>
      have one := Peg.notes_runNoting spare first cursor memory
      rw [Peg.runNoting, Peg.run, Packrat.consult, if_neg Bool.false_ne_true]
      cases run : first.run spare cursor with
      | matched trees rest expected =>
          rw [run] at one
          obtain ⟨later, noted, record⟩ := one.of_matched
          rw [noted]
          exact ⟨rfl, fun _ => record⟩
      | failed expected =>
          rw [run] at one
          obtain ⟨later, noted, record⟩ := one.of_failed
          rw [noted]
          have other := Peg.notes_runNoting spare second cursor later
          have whole := @Packrat.Notes.after memory later [] expected _ _ other record
          rwa [Outcome.after_nil] at whole
      | exhausted =>
          rw [run] at one
          obtain ⟨later, noted⟩ := one.of_exhausted
          rw [noted]
          exact .exhausted memory later
  | .many repeated =>
      have one := Peg.notes_runNoting spare repeated cursor memory
      rw [Peg.runNoting, Peg.run, Packrat.consult, if_neg Bool.false_ne_true]
      cases run : repeated.run spare cursor with
      | matched trees rest expected =>
          rw [run] at one
          obtain ⟨later, noted, record⟩ := one.of_matched
          rw [noted]
          by_cases shorter : rest.ahead.length < cursor.ahead.length
          · simp only [shorter, if_true]
            exact (Peg.notes_runNoting spare (.many repeated) rest later).after record
          · simp only [shorter, if_false]
            exact ⟨rfl, fun _ => record⟩
      | failed expected =>
          rw [run] at one
          obtain ⟨later, noted, record⟩ := one.of_failed
          rw [noted]
          exact ⟨rfl, fun _ => record⟩
      | exhausted =>
          rw [run] at one
          obtain ⟨later, noted⟩ := one.of_exhausted
          rw [noted]
          exact .exhausted memory later
  | .nested inside =>
      rw [Peg.runNoting, Packrat.consult, if_neg Bool.false_ne_true]
      cases spare with
      | zero =>
          rw [Peg.run]
          exact .exhausted memory memory
      | succ spare =>
          rw [Peg.run]
          exact Peg.notes_runNoting spare inside cursor memory
termination_by (spare, expression.height, cursor.ahead.length)
decreasing_by
  all_goals simp [Prod.lex_def, Peg.height, Rule.height_body_lt]
  all_goals omega

/-! ## One answer -/

/-- With memory the noted run is the run with memory. -/
theorem Peg.resultNoting_remembering (spare : Nat) (expression : Peg) (text : List Char) :
    expression.resultNoting true spare text = expression.runWithMemory spare text := by
  have listed := Peg.listedOnce_runNoting spare expression (.start text) .empty
  have empty : Packrat.empty.distinct = .empty := rfl
  rw [empty] at listed
  rw [Peg.resultNoting, Peg.runWithMemory, ← listed]
  rcases expression.runNoting true spare (.start text) .empty with ⟨outcome, memory⟩
  cases outcome <;> rfl

/-- Without memory the noted run is the plain run. -/
theorem Peg.resultNoting_plain (spare : Nat) (expression : Peg) (text : List Char) :
    expression.resultNoting false spare text = expression.run spare (.start text) := by
  have notes := Peg.notes_runNoting spare expression (.start text) .empty
  have start (expected : Expected) : Packrat.empty.expected.distinct.merge expected = expected :=
    Expected.none_merge expected
  rw [Peg.resultNoting]
  cases run : expression.run spare (.start text) with
  | matched trees rest expected =>
      rw [run] at notes
      obtain ⟨later, noted, record⟩ := notes.of_matched
      simp only [noted, record, start]
  | failed expected =>
      rw [run] at notes
      obtain ⟨later, noted, record⟩ := notes.of_failed
      simp only [noted, record, start]
  | exhausted =>
      rw [run] at notes
      obtain ⟨later, noted⟩ := notes.of_exhausted
      simp only [noted]

/-- Noting every failure, with a memory or without, has the result of reading. -/
theorem Peg.resultNoting_eq {spare : Nat} {expression : Peg} {text : List Char}
    (given : expression.run spare (.start text) ≠ .exhausted) (remembers : Bool) :
    expression.resultNoting remembers spare text = expression.run spare (.start text) := by
  cases remembers with
  | false => exact Peg.resultNoting_plain spare expression text
  | true => rw [Peg.resultNoting_remembering, Peg.runWithMemory_eq given]

end Reckon.Grammar
