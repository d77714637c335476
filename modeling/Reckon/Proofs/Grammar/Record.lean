import Reckon.Proofs.Grammar.Expected
import Reckon.Proofs.Grammar.Settles
import Reckon.Proofs.Grammar.Word

/-!
# Runs with their records

`Peg.Passes` and `Peg.Misses` leave out the trees of a result and keep what was expected on the way;
there is one rule for every form of expression.  A terminal passes exactly where the next word is
one of its words (`Cursor.Yields.passes`, `Peg.misses_terminal`).
-/

namespace Reckon

open Grammar (Expected isBlank Peg Rule Terminal)

/-! ## The next word -/

namespace Cursor

/-- The place of the next word. -/
def next (cursor : Cursor) : Cursor :=
  cursor.skipWhile isBlank

/-- The next word is one of a terminal, and leaves a place. -/
def Yields (cursor : Cursor) (kind : Terminal) (word : List Char) (rest : Cursor) : Prop :=
  kind.take? cursor.next.ahead = some word ∧ rest = cursor.next.advance word.length

/-- Whether the next word is one of a terminal. -/
def Starts (cursor : Cursor) (kind : Terminal) : Prop :=
  ∃ word rest, cursor.Yields kind word rest

variable {cursor rest rest' : Cursor} {kind kind' : Terminal} {word word' : List Char}

theorem Yields.starts (yields : cursor.Yields kind word rest) : cursor.Starts kind :=
  ⟨word, rest, yields⟩

/-- At a place one word is yielded at most. -/
theorem Yields.unique (yields : cursor.Yields kind word rest)
    (yields' : cursor.Yields kind' word' rest') : kind = kind' ∧ word = word' ∧ rest = rest' := by
  obtain ⟨taken, rfl⟩ := yields
  obtain ⟨taken', rfl⟩ := yields'
  obtain rfl := Terminal.eq_of_take?_eq_some taken taken'
  rw [taken, Option.some.injEq] at taken'
  obtain rfl := taken'
  exact ⟨rfl, rfl, rfl⟩

theorem Starts.unique (starts : cursor.Starts kind) (starts' : cursor.Starts kind') :
    kind = kind' := by
  obtain ⟨_, _, yields⟩ := starts
  obtain ⟨_, _, yields'⟩ := starts'
  exact (yields.unique yields').1

theorem not_starts_of_ne (starts : cursor.Starts kind) (different : kind ≠ kind') :
    ¬cursor.Starts kind' :=
  fun starts' => different (starts.unique starts')

theorem next_ahead (cursor : Cursor) : cursor.next.ahead = cursor.ahead.dropWhile isBlank := by
  have skipped :=
    @List.drop_left _ (cursor.ahead.takeWhile isBlank) (cursor.ahead.dropWhile isBlank)
  rwa [List.takeWhile_append_dropWhile] at skipped

/-- In front of the next word there are only blanks. -/
theorem exists_blanks (cursor : Cursor) :
    ∃ blanks, (∀ c ∈ blanks, isBlank c = true) ∧
      cursor.ahead = blanks ++ cursor.next.ahead ∧
      cursor.next.position = cursor.position + blanks.length ∧
      ∀ c, cursor.next.ahead.head? = some c → isBlank c = false := by
  have whole : cursor.ahead.takeWhile isBlank ++ cursor.ahead.dropWhile isBlank = cursor.ahead :=
    List.takeWhile_append_dropWhile
  have taken := @List.take_left _ (cursor.ahead.takeWhile isBlank) (cursor.ahead.dropWhile isBlank)
  rw [whole] at taken
  refine ⟨cursor.ahead.takeWhile isBlank, List.all_eq_true.mp List.all_takeWhile, ?_, ?_, ?_⟩
  · rw [next_ahead, whole]
  · rw [next, skipWhile, advance, taken]
  · intro c front
    rw [next_ahead] at front
    have stopped := List.head?_dropWhile_not isBlank cursor.ahead
    rw [front] at stopped
    simpa using stopped

/-- The word that is yielded stands in the text, behind the blanks. -/
theorem Yields.split (yields : cursor.Yields kind word rest) :
    cursor.next.ahead = word ++ rest.ahead ∧
      rest.position = cursor.next.position + word.length := by
  obtain ⟨taken, rfl⟩ := yields
  obtain ⟨-, behind, front⟩ := Terminal.spells_of_take?_eq_some taken
  rw [advance, ← front, List.drop_left, List.take_left]
  exact ⟨rfl, rfl⟩

theorem length_next_le (cursor : Cursor) : cursor.next.ahead.length ≤ cursor.ahead.length := by
  obtain ⟨blanks, -, split, -, -⟩ := cursor.exists_blanks
  rw [split, List.length_append]
  omega

theorem position_le_next (cursor : Cursor) : cursor.position ≤ cursor.next.position := by
  obtain ⟨blanks, -, -, position, -⟩ := cursor.exists_blanks
  omega

theorem Yields.length_pos (yields : cursor.Yields kind word rest) (inside : kind ≠ .endOfText) :
    0 < word.length := by
  obtain ⟨spelled, -⟩ := Terminal.spells_of_take?_eq_some yields.1
  exact List.length_pos_of_ne_nil (spelled.ne_nil inside)

/-- The next word of a place stands further on than that of another one. -/
structure Precedes (cursor rest : Cursor) : Prop where
  further : cursor.next.position < rest.next.position
  shorter : rest.ahead.length < cursor.ahead.length

theorem Precedes.trans (before : cursor.Precedes rest) (behind : rest.Precedes rest') :
    cursor.Precedes rest' where
  further := Nat.lt_trans before.further behind.further
  shorter := Nat.lt_trans behind.shorter before.shorter

theorem Yields.precedes (yields : cursor.Yields kind word rest) (inside : kind ≠ .endOfText) :
    cursor.Precedes rest where
  further := by
    have nonempty := yields.length_pos inside
    have behind := yields.split.2
    have := rest.position_le_next
    omega
  shorter := by
    have nonempty := yields.length_pos inside
    have := cursor.length_next_le
    rw [yields.split.1, List.length_append] at this
    omega

end Cursor

/-! ## Runs -/

namespace Grammar.Peg

/-- An expression matches up to a place, and has seen terminals fail on the way. -/
def Passes (expression : Peg) (cursor rest : Cursor) (record : Expected) : Prop :=
  ∃ trees, expression.Settles cursor (.matched trees rest record)

/-- An expression does not match, after what it has seen fail. -/
def Misses (expression : Peg) (cursor : Cursor) (record : Expected) : Prop :=
  expression.Settles cursor (.failed record)

variable {first second repeated inside : Peg} {cursor place rest : Cursor}
  {record later : Expected} {kind : Terminal} {word : List Char}

theorem Passes.rule (name : Rule) (body : name.body.Passes cursor rest record) :
    (Peg.rule name).Passes cursor rest record := by
  obtain ⟨trees, body⟩ := body
  exact ⟨_, body.rule⟩

theorem Passes.sequence (before : first.Passes cursor place record)
    (behind : second.Passes place rest later) :
    (first.sequence second).Passes cursor rest (record.merge later) := by
  obtain ⟨trees, before⟩ := before
  obtain ⟨others, behind⟩ := behind
  exact ⟨_, before.sequence behind⟩

theorem Passes.left (chosen : first.Passes cursor rest record) :
    (first.choice second).Passes cursor rest record := by
  obtain ⟨trees, chosen⟩ := chosen
  exact ⟨_, chosen.left⟩

theorem Passes.right (before : first.Misses cursor record)
    (chosen : second.Passes cursor rest later) :
    (first.choice second).Passes cursor rest (record.merge later) := by
  obtain ⟨trees, chosen⟩ := chosen
  exact ⟨_, Settles.right before chosen⟩

theorem Passes.stop (once : repeated.Misses cursor record) :
    (Peg.many repeated).Passes cursor cursor record :=
  ⟨_, Settles.stop once⟩

theorem Passes.more (once : repeated.Passes cursor place record)
    (shorter : place.ahead.length < cursor.ahead.length)
    (again : (Peg.many repeated).Passes place rest later) :
    (Peg.many repeated).Passes cursor rest (record.merge later) := by
  obtain ⟨trees, once⟩ := once
  obtain ⟨others, again⟩ := again
  exact ⟨_, once.more shorter again⟩

theorem Passes.nested (within : inside.Passes cursor rest record) :
    (Peg.nested inside).Passes cursor rest record := by
  obtain ⟨trees, within⟩ := within
  exact ⟨_, within.nested⟩

theorem Misses.rule (name : Rule) (body : name.body.Misses cursor record) :
    (Peg.rule name).Misses cursor record :=
  Settles.rule body

theorem Misses.sequence (before : first.Misses cursor record) :
    (first.sequence second).Misses cursor record :=
  Settles.refused before

/-- A sequence that misses behind its first part keeps the records of both. -/
theorem Misses.behind (before : first.Passes cursor place record)
    (behind : second.Misses place later) :
    (first.sequence second).Misses cursor (record.merge later) := by
  obtain ⟨trees, before⟩ := before
  exact before.sequence behind

theorem Misses.choice (before : first.Misses cursor record)
    (other : second.Misses cursor later) :
    (first.choice second).Misses cursor (record.merge later) :=
  Settles.right before other

theorem Misses.nested (within : inside.Misses cursor record) :
    (Peg.nested inside).Misses cursor record :=
  Settles.nested within

theorem passes_terminal (yields : cursor.Yields kind word rest) :
    (Peg.terminal kind).Passes cursor rest .none := by
  obtain ⟨taken, rfl⟩ := yields
  refine ⟨ParseTree.ofWord kind word, 0, ?_, by simp⟩
  unfold Cursor.next at taken ⊢
  simp only [Peg.run, Terminal.run, taken]

/-- A terminal that does not begin here is recorded behind the blanks. -/
theorem misses_terminal (refuses : ¬cursor.Starts kind) :
    (Peg.terminal kind).Misses cursor (.single cursor.next.position kind) := by
  have taken : kind.take? cursor.next.ahead = none := by
    cases taken : kind.take? cursor.next.ahead with
    | none => rfl
    | some word => exact absurd ⟨word, _, taken, rfl⟩ refuses
  refine ⟨0, ?_, by simp⟩
  unfold Cursor.next at taken ⊢
  simp only [Peg.run, Terminal.run, taken]

/-- Behind a word that a terminal takes the record is that of the rest. -/
theorem Passes.behind_word (yields : cursor.Yields kind word place)
    (behind : second.Passes place rest record) :
    ((Peg.terminal kind).sequence second).Passes cursor rest record := by
  have passes := (passes_terminal yields).sequence behind
  rwa [Expected.none_merge] at passes

theorem Misses.behind_word (yields : cursor.Yields kind word place)
    (behind : second.Misses place record) :
    ((Peg.terminal kind).sequence second).Misses cursor record := by
  have misses := Misses.behind (passes_terminal yields) behind
  rwa [Expected.none_merge] at misses

end Grammar.Peg

end Reckon
