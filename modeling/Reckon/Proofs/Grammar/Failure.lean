import Reckon.Proofs.Grammar.Standing

/-!
# Where reading fails

The alternatives that are tried one after the other, and the levels that are left one after the
other, keep the same record: a text that is not read is blocked, and its record is the place where
it is blocked with everything that is wanted there (`formula_cases`).  A rule for operands either
ends behind an operand, where the text goes on with what may stand behind it (`Rule.Ended`), or the
text is blocked before that (`Rule.Stuck`).
-/

namespace Reckon.Grammar

open Standing (operators)

/-! ## Records -/

/-- All that still counts of a record at the place of the next word. -/
def Expected.Seen (record : Expected) (cursor : Cursor) (terminals : List Terminal) : Prop :=
  record.merge ⟨cursor.next.position, []⟩ = ⟨cursor.next.position, terminals⟩

namespace Expected

variable {record earlier : Expected} {cursor : Cursor} {terminals : List Terminal}
  {kind : Terminal}

theorem position_single (position : Nat) (kind : Terminal) :
    (single position kind).position = position :=
  rfl

theorem merge_at (position : Nat) (first second : List Terminal) :
    (⟨position, first⟩ : Expected).merge ⟨position, second⟩ = ⟨position, union first second⟩ :=
  merge_of_eq rfl

theorem merge_self (record : Expected) : record.merge record = record := by
  rw [merge_of_eq rfl, union_of_subset (List.Subset.refl _)]

theorem Seen.position_le (seen : record.Seen cursor terminals) :
    record.position ≤ cursor.next.position := by
  have positions := congrArg Expected.position seen
  rw [position_merge] at positions
  exact Nat.le_trans (Nat.le_max_left _ _) (Nat.le_of_eq positions)

theorem Seen.of_lt (before : record.position < cursor.next.position) : record.Seen cursor [] :=
  merge_of_lt before

/-- What failed earlier in the text is forgotten. -/
theorem Seen.after (seen : record.Seen cursor terminals)
    (before : earlier.position < cursor.next.position) :
    (earlier.merge record).Seen cursor terminals := by
  rw [Seen, merge_assoc, seen]
  exact merge_of_lt before

/-- One more terminal that fails here goes to the end of the list. -/
theorem Seen.merge_single (seen : record.Seen cursor terminals) (new : kind ∉ terminals) :
    record.merge (.single cursor.next.position kind) =
      ⟨cursor.next.position, terminals ++ [kind]⟩ := by
  have nothing : (⟨cursor.next.position, []⟩ : Expected).merge (.single cursor.next.position kind) =
      .single cursor.next.position kind :=
    merge_at _ _ _
  have last : union terminals [kind] = terminals ++ [kind] := by simp [union, new]
  rw [← nothing, ← merge_assoc, seen, single, merge_at, last]

theorem seen_all (cursor : Cursor) (terminals : List Terminal) :
    (⟨cursor.next.position, terminals⟩ : Expected).Seen cursor terminals := by
  rw [Seen, merge_at, union_of_subset (List.nil_subset _)]

end Expected

/-! ## What a rule looks for -/

/-- The operators that a rule looks for behind an operand, in the order in which it does. -/
def Rule.joints : Rule → List Terminal
  | .chain level => operators.take (level.tighter + 1)
  | _ => []

theorem joints_chain (level : Level) :
    (Rule.chain level).joints = level.operand.joints ++ [level.operator] := by
  cases level <;> rfl

theorem operator_not_mem_joints (level : Level) : level.operator ∉ level.operand.joints := by
  cases level <;> decide

theorem operator_mem_operators (level : Level) : level.operator ∈ operators := by
  cases level <;> decide

theorem operator_ne_endOfText (level : Level) : level.operator ≠ .endOfText := by
  cases level <;> decide

theorem not_mem_joints (name : Rule) {kind : Terminal} (foreign : kind ∉ operators) :
    kind ∉ name.joints := by
  intro listed
  cases name with
  | chain level => exact foreign (List.mem_of_mem_take listed)
  | _ => cases listed

/-- An expression fails at once where a terminal does. -/
def Peg.StartsWith (expression : Peg) (kind : Terminal) : Prop :=
  ∀ cursor : Cursor, ¬cursor.Starts kind →
    expression.Misses cursor (.single cursor.next.position kind)

theorem Peg.startsWith_terminal (kind : Terminal) : (Peg.terminal kind).StartsWith kind :=
  fun _ refuses => misses_terminal refuses

theorem Peg.StartsWith.sequence {first : Peg} {kind : Terminal} (startsWith : first.StartsWith kind)
    (second : Peg) : (first.sequence second).StartsWith kind :=
  fun cursor refuses => (startsWith cursor refuses).sequence

theorem Peg.StartsWith.rule (name : Rule) {kind : Terminal}
    (startsWith : name.body.StartsWith kind) : (Peg.rule name).StartsWith kind :=
  fun cursor refuses => .rule name (startsWith cursor refuses)

/-! ## Behind an operand -/

/-- A rule ends behind an operand that no operator of the rule continues. -/
structure Rule.Ended (name : Rule) (cursor rest : Cursor) (record : Expected) : Prop where
  passes : (Peg.rule name).Passes cursor rest record
  precedes : cursor.Precedes rest
  closed : ∀ kind ∈ name.joints, ¬rest.Starts kind
  seen : record.Seen rest name.joints
  blocked : ∀ around record, Blocked ⟨.joint, around⟩ rest record →
    Blocked ⟨.operand, around⟩ cursor record

/-- A text is blocked on the way of a rule.  The rule fails, or it leaves off in front of an
operator without an operand. -/
structure Rule.Stuck (name : Rule) (cursor : Cursor) (record : Expected) : Prop where
  blocked : ∀ around, Blocked ⟨.operand, around⟩ cursor record
  leaves : (Peg.rule name).Misses cursor record ∨
    ∃ rest, (Peg.rule name).Passes cursor rest record ∧
      rest.ahead.length ≤ cursor.ahead.length ∧ rest.next.position < record.position ∧
      ∃ kind ∈ name.joints, rest.Starts kind

def Rule.Reads (name : Rule) (cursor : Cursor) : Prop :=
  (∃ rest record, name.Ended cursor rest record) ∨ ∃ record, name.Stuck cursor record

variable {name : Rule} {cursor place rest : Cursor} {record later : Expected} {next : Peg}
  {kind : Terminal} {word : List Char} {level : Level}

/-- Behind a phrase the operators of its level have failed, and then what had to follow. -/
theorem Rule.Ended.refused (ended : name.Ended cursor rest record)
    (startsWith : next.StartsWith kind) (foreign : kind ∉ operators) (refuses : ¬rest.Starts kind) :
    ((Peg.rule name).sequence next).Misses cursor ⟨rest.next.position, name.joints ++ [kind]⟩ := by
  have misses := Peg.Misses.behind ended.passes (startsWith rest refuses)
  rwa [ended.seen.merge_single (not_mem_joints name foreign)] at misses

/-- What follows a rule on whose way the text is blocked fails in front of an operator, and so
nothing is added to the record. -/
theorem Rule.Stuck.refused (stuck : name.Stuck cursor record) (startsWith : next.StartsWith kind)
    (new : kind ∉ name.joints) : ((Peg.rule name).sequence next).Misses cursor record := by
  rcases stuck.leaves with misses | ⟨rest, passes, -, before, other, listed, starts⟩
  · exact misses.sequence
  · have different : other ≠ kind := fun same => new (same ▸ listed)
    have refuses := Cursor.not_starts_of_ne starts different
    have misses := Peg.Misses.behind passes (startsWith rest refuses)
    rwa [Expected.merge_of_gt before] at misses

/-! ## Operands -/

/-- An expression for an operand passes. -/
structure Peg.Completes (expression : Peg) (cursor rest : Cursor) (record : Expected) : Prop where
  passes : expression.Passes cursor rest record
  precedes : cursor.Precedes rest
  before : record.position < rest.next.position
  blocked : ∀ around record, Blocked ⟨.joint, around⟩ rest record →
    Blocked ⟨.operand, around⟩ cursor record

/-- An expression for an operand fails where the text is blocked. -/
structure Peg.Stalls (expression : Peg) (cursor : Cursor) (record : Expected) : Prop where
  misses : expression.Misses cursor record
  blocked : ∀ around, Blocked ⟨.operand, around⟩ cursor record

def Peg.Takes (expression : Peg) (cursor : Cursor) : Prop :=
  (∃ rest record, expression.Completes cursor rest record) ∨
    ∃ record, expression.Stalls cursor record

theorem Peg.Completes.ended (completes : (Peg.rule name).Completes cursor rest record)
    (alone : name.joints = []) : name.Ended cursor rest record where
  passes := completes.passes
  precedes := completes.precedes
  closed := by simp [alone]
  seen := by
    rw [alone]
    exact .of_lt completes.before
  blocked := completes.blocked

theorem Peg.Takes.reads (takes : (Peg.rule name).Takes cursor) (alone : name.joints = []) :
    name.Reads cursor := by
  rcases takes with ⟨rest, record, completes⟩ | ⟨record, stalls⟩
  · exact Or.inl ⟨rest, record, completes.ended alone⟩
  · exact Or.inr ⟨record, stalls.blocked, Or.inl stalls.misses⟩

theorem Peg.completes_word (yields : cursor.Yields kind word rest) (inside : kind ≠ .endOfText)
    (step : ∀ around, Standing.Step ⟨.operand, around⟩ kind ⟨.joint, around⟩) :
    (Peg.terminal kind).Completes cursor rest .none where
  passes := passes_terminal yields
  precedes := yields.precedes inside
  before := Nat.lt_of_le_of_lt (Nat.zero_le _) (yields.precedes inside).further
  blocked around _ blocked := .step yields (step around) blocked

/-- A word that follows a phrase is taken, and the record of the phrase stays. -/
theorem Rule.Ended.last (ended : name.Ended cursor place record)
    (yields : place.Yields kind word rest) :
    ((Peg.rule name).sequence (.terminal kind)).Passes cursor rest record := by
  have passes := ended.passes.sequence (Peg.passes_terminal yields)
  rwa [Expected.merge_none] at passes

/-- Behind an operand neither an operator nor anything that closes follows. -/
theorem blocked_joint {around : List Opening} (closed : ∀ kind ∈ operators, ¬rest.Starts kind)
    (open' : ∀ kind ∈ Standing.closers around, ¬rest.Starts kind) :
    Blocked ⟨.joint, around⟩ rest
      ⟨rest.next.position, operators ++ Standing.closers around⟩ := by
  refine @Blocked.here ⟨.joint, around⟩ rest fun kind listed => ?_
  rcases List.mem_append.mp listed with operator | closer
  · exact closed kind operator
  · exact open' kind closer

/-- A formula is ended by a word, or the text is blocked where nothing else may end the formula. -/
theorem Rule.Reads.last_cases (reads : (Rule.chain .logicalOr).Reads cursor)
    (foreign : kind ∉ operators) :
    (∃ place record word rest, (Rule.chain .logicalOr).Ended cursor place record ∧
      place.Yields kind word rest) ∨
    ∃ record, (Rule.inner.sequence (.terminal kind)).Misses cursor record ∧
      ∀ around, Standing.closers around = [kind] → Blocked ⟨.operand, around⟩ cursor record := by
  have ending := Peg.startsWith_terminal kind
  rcases reads with ⟨place, record, ended⟩ | ⟨record, stuck⟩
  · by_cases ends : place.Starts kind
    · obtain ⟨word, rest, yields⟩ := ends
      exact Or.inl ⟨place, record, word, rest, ended, yields⟩
    · refine Or.inr ⟨_, ended.refused ending foreign ends, fun around only => ended.blocked _ _ ?_⟩
      have refuses : ∀ kind ∈ Standing.closers around, ¬place.Starts kind := by
        simpa [only] using ends
      have blocked := blocked_joint ended.closed refuses
      rwa [only] at blocked
  · exact Or.inr ⟨record, stuck.refused ending (not_mem_joints _ foreign),
      fun around _ => stuck.blocked around⟩

theorem Peg.takes_group (yields : cursor.Yields .openParenthesis word place)
    (inner : (Rule.chain .logicalOr).Reads place) : (Peg.rule .group).Takes cursor := by
  have closing : Terminal.closeParenthesis ∉ operators := by decide
  rcases inner.last_cases closing with
    ⟨rest, record, _, final, ended, yields'⟩ | ⟨record, misses, blocked⟩
  · have passes := Passes.behind_word yields (ended.last yields').nested
    have inside := (yields.precedes (by simp)).trans ended.precedes
    have last := yields'.precedes (by simp)
    have before := Nat.lt_of_le_of_lt ended.seen.position_le last.further
    refine Or.inl ⟨final, record, .rule .group passes, inside.trans last, before, ?_⟩
    intro around record blocked
    exact .step yields .group (ended.blocked _ _ (.step yields' .close blocked))
  · have group := Misses.behind_word yields misses.nested
    exact Or.inr ⟨record, .rule .group group, fun around => .step yields .group (blocked _ rfl)⟩

/-- What is tried behind two calls that failed further on adds nothing to their records. -/
theorem Peg.misses_calls {tail : Peg} {one other : Expected}
    (binary : (Peg.rule .binaryCall).Misses cursor one)
    (unary : (Peg.rule .unaryCall).Misses cursor other) (misses : tail.Misses cursor record)
    (before : record.position < other.position) :
    ((Peg.rule .binaryCall).choice ((Peg.rule .unaryCall).choice tail)).Misses cursor
      (one.merge other) := by
  have all := binary.choice (unary.choice misses)
  rwa [Expected.merge_of_gt before] at all

section Calls

variable {inside second : Cursor} {opening separator : List Char} {first : Expected}
  (yields : cursor.Yields .name word place) (opens : place.Yields .openParenthesis opening inside)

include yields opens

theorem Peg.misses_binaryCall
    (misses : (Rule.inner.sequence ((Peg.terminal .comma).sequence
      (Rule.inner.sequence (.terminal .closeParenthesis)))).Misses inside record) :
    (Peg.rule .binaryCall).Misses cursor record :=
  .rule .binaryCall (.behind_word yields (.behind_word opens misses.nested))

theorem Peg.misses_unaryCall
    (misses : (Rule.inner.sequence (.terminal .closeParenthesis)).Misses inside record) :
    (Peg.rule .unaryCall).Misses cursor record :=
  .rule .unaryCall (.behind_word yields (.behind_word opens misses.nested))

/-- Behind the comma a call of two inputs passes, or the text is blocked there. -/
theorem Peg.takes_binaryCall (ended : (Rule.chain .logicalOr).Ended inside rest first)
    (separates : rest.Yields .comma separator second)
    (inner : (Rule.chain .logicalOr).Reads second) :
    (∃ final record, (Peg.rule .binaryCall).Completes cursor final record) ∨
      ∃ record, rest.next.position < record.position ∧
        (Peg.rule .binaryCall).Stalls cursor record := by
  have closing : Terminal.closeParenthesis ∉ operators := by decide
  have further := (separates.precedes (by simp)).further
  have before := ended.seen.position_le
  have blocked {around : List Opening} {record : Expected}
      (blocked : Blocked ⟨.operand, .secondInput :: around⟩ second record) :
      Blocked ⟨.operand, around⟩ cursor record :=
    .step yields .name (.step opens .inputs (ended.blocked _ _ (.step separates .comma blocked)))
  rcases inner.last_cases closing with
    ⟨rest', record', _, final, ended', yields'⟩ | ⟨record, misses, blocked'⟩
  · have inputs := ended.passes.sequence (Passes.behind_word separates (ended'.last yields'))
    have passes := Passes.behind_word yields (.behind_word opens inputs.nested)
    have last := yields'.precedes (by simp)
    have precedes : cursor.Precedes final :=
      (yields.precedes (by simp)).trans <| (opens.precedes (by simp)).trans <|
        ended.precedes.trans <| (separates.precedes (by simp)).trans <|
          ended'.precedes.trans last
    have later := ended'.precedes.further
    have before' := ended'.seen.position_le
    have furthest := last.further
    refine Or.inl ⟨final, _, .rule .binaryCall passes, precedes, ?_, ?_⟩
    · rw [Expected.position_merge]
      omega
    · intro around record behind
      exact blocked (ended'.blocked _ _ (.step yields' .close behind))
  · have later := Nat.lt_of_lt_of_le further (blocked' [.secondInput] rfl).position_le
    have both := Misses.behind ended.passes (Misses.behind_word separates misses)
    rw [Expected.merge_of_lt (Nat.lt_of_le_of_lt before later)] at both
    have all := misses_binaryCall yields opens both
    exact Or.inr ⟨record, later, all, fun around => blocked (blocked' _ rfl)⟩

/-- Without a comma behind its first input a call of one input passes, or the text is blocked
there. -/
theorem Peg.takes_unaryCall {tail : Peg} {record : Expected}
    (ended : (Rule.chain .logicalOr).Ended inside rest first) (alone : ¬rest.Starts .comma)
    (misses : tail.Misses cursor record) (before : record.position < rest.next.position) :
    ((Peg.rule .binaryCall).choice ((Peg.rule .unaryCall).choice tail)).Takes cursor := by
  have blocked {around : List Opening} {record : Expected}
      (blocked : Blocked ⟨.joint, .firstInput :: around⟩ rest record) :
      Blocked ⟨.operand, around⟩ cursor record :=
    .step yields .name (.step opens .inputs (ended.blocked _ _ blocked))
  have binary : (Peg.rule .binaryCall).Misses cursor ⟨rest.next.position, operators ++ [.comma]⟩ :=
    misses_binaryCall yields opens
      (ended.refused ((startsWith_terminal .comma).sequence _) (by decide) alone)
  by_cases closes : rest.Starts .closeParenthesis
  · obtain ⟨_, final, yields'⟩ := closes
    have unary := Passes.behind_word yields (.behind_word opens (ended.last yields').nested)
    have passes := Passes.right binary (@Passes.left _ tail _ _ _ (.rule .unaryCall unary))
    have last := yields'.precedes (by simp)
    have precedes : cursor.Precedes final :=
      (yields.precedes (by simp)).trans <| (opens.precedes (by simp)).trans <|
        ended.precedes.trans last
    have before' := ended.seen.position_le
    have furthest := last.further
    refine Or.inl ⟨final, _, passes, precedes, ?_, ?_⟩
    · rw [Expected.position_merge]
      dsimp only
      omega
    · intro around record behind
      exact blocked (.step yields' .close behind)
  · have unary := misses_unaryCall yields opens
      (ended.refused (startsWith_terminal .closeParenthesis) (by decide) closes)
    have all := misses_calls binary unary misses before
    rw [Expected.merge_at] at all
    refine Or.inr ⟨_, all, fun around => blocked ?_⟩
    exact blocked_joint ended.closed (by simp [Standing.closers, alone, closes])

end Calls

/-- A call of one or two inputs, or what is tried behind both.  Both calls read the first input, so
that both have seen the same up to there. -/
theorem Peg.takes_calls {tail : Peg} {record : Expected} (yields : cursor.Yields .name word place)
    (inner : ∀ inside : Cursor, inside.ahead.length < cursor.ahead.length →
      (Rule.chain .logicalOr).Reads inside)
    (misses : tail.Misses cursor record) (before : record.position = cursor.next.position) :
    ((Peg.rule .binaryCall).choice ((Peg.rule .unaryCall).choice tail)).Takes cursor := by
  have name := yields.precedes (by simp)
  by_cases starts : place.Starts .openParenthesis
  · obtain ⟨_, inside, opens⟩ := starts
    have both := name.trans (opens.precedes (by simp))
    have blocked {around : List Opening} {record : Expected}
        (blocked : Blocked ⟨.operand, .firstInput :: around⟩ inside record) :
        Blocked ⟨.operand, around⟩ cursor record :=
      .step yields .name (.step opens .inputs blocked)
    rcases inner inside both.shorter with ⟨rest, first, ended⟩ | ⟨first, stuck⟩
    · have later := (both.trans ended.precedes).further
      by_cases starts : rest.Starts .comma
      · obtain ⟨_, second, separates⟩ := starts
        have further := both.trans (ended.precedes.trans (separates.precedes (by simp)))
        rcases takes_binaryCall yields opens ended separates (inner second further.shorter) with
          ⟨final, record, completes⟩ | ⟨record', later', stalls⟩
        · exact Or.inl ⟨final, record, completes.passes.left, completes.precedes, completes.before,
            completes.blocked⟩
        · have closes := Cursor.not_starts_of_ne separates.starts
            (by simp : Terminal.comma ≠ .closeParenthesis)
          have unary := misses_unaryCall yields opens
            (ended.refused (startsWith_terminal .closeParenthesis) (by decide) closes)
          have all := misses_calls stalls.misses unary misses (before ▸ later)
          rw [Expected.merge_of_gt later'] at all
          exact Or.inr ⟨_, all, stalls.blocked⟩
      · exact takes_unaryCall yields opens ended starts misses (by omega)
    · -- both calls are blocked in their first input and keep the same record
      have later := Nat.lt_of_lt_of_le both.further (stuck.blocked []).position_le
      have binary := misses_binaryCall yields opens
        (stuck.refused ((startsWith_terminal .comma).sequence _) (by decide))
      have unary := misses_unaryCall yields opens
        (stuck.refused (startsWith_terminal .closeParenthesis) (by decide))
      have all := misses_calls binary unary misses (before ▸ later)
      rw [Expected.merge_self] at all
      exact Or.inr ⟨_, all, fun around => blocked (stuck.blocked _)⟩
  · have refused (next : Peg) :
        ((Peg.terminal .name).sequence ((Peg.terminal .openParenthesis).sequence next)).Misses
          cursor (.single place.next.position .openParenthesis) :=
      Misses.behind_word yields (misses_terminal starts).sequence
    have all := misses_calls (.rule .binaryCall (refused _)) (.rule .unaryCall (refused _)) misses
      (before ▸ name.further)
    rw [Expected.merge_self] at all
    refine Or.inr ⟨_, all, fun around => .step yields .name ?_⟩
    exact @Blocked.here ⟨.inputs, around⟩ place (by simpa [Standing.wanted] using starts)

theorem Peg.startsWith_binaryCall : (Peg.rule .binaryCall).StartsWith .name :=
  .rule .binaryCall ((startsWith_terminal .name).sequence _)

theorem Peg.startsWith_unaryCall : (Peg.rule .unaryCall).StartsWith .name :=
  .rule .unaryCall ((startsWith_terminal .name).sequence _)

theorem Peg.startsWith_group : (Peg.rule .group).StartsWith .openParenthesis :=
  .rule .group ((startsWith_terminal .openParenthesis).sequence _)

theorem Peg.Completes.left {first second : Peg} (completes : first.Completes cursor rest record) :
    (first.choice second).Completes cursor rest record :=
  { completes with passes := completes.passes.left }

theorem Peg.Takes.rule (name : Rule) (takes : name.body.Takes cursor) :
    (Peg.rule name).Takes cursor := by
  rcases takes with ⟨rest, record, completes⟩ | ⟨record, stalls⟩
  · exact Or.inl ⟨rest, record, { completes with passes := .rule name completes.passes }⟩
  · exact Or.inr ⟨record, { stalls with misses := .rule name stalls.misses }⟩

/-- An alternative that fails at once adds nothing to the record of a later one that does not. -/
theorem Peg.Takes.right {first second : Peg} {other : Terminal} (startsWith : first.StartsWith kind)
    (refuses : ¬cursor.Starts kind) (starts : cursor.Starts other)
    (listed : other ∈ Standing.start.wanted) (takes : second.Takes cursor) :
    (first.choice second).Takes cursor := by
  have misses := startsWith cursor refuses
  rcases takes with ⟨rest, record, completes⟩ | ⟨record, stalls⟩
  · have passes := Passes.right misses completes.passes
    have further := completes.precedes.further
    have before := completes.before
    refine Or.inl ⟨rest, _, passes, completes.precedes, ?_, completes.blocked⟩
    rw [Expected.position_merge, Expected.position_single]
    omega
  · have later := (stalls.blocked []).position_lt starts listed
    have all := misses.choice stalls.misses
    rw [Expected.merge_of_lt later] at all
    exact Or.inr ⟨record, all, stalls.blocked⟩

/-- Where the first word of an atom stands, the atom is completed or stalls. -/
theorem Peg.takes_atom (inner : ∀ inside : Cursor, inside.ahead.length < cursor.ahead.length →
      (Rule.chain .logicalOr).Reads inside) (starts : cursor.Starts kind)
    (listed : kind ∈ [Terminal.name, .number, .argument, .openParenthesis]) :
    (Peg.rule .atom).Takes cursor := by
  have wanted : kind ∈ Standing.start.wanted := List.mem_cons_of_mem _ listed
  have refuses {other : Terminal} (different : kind ≠ other) : ¬cursor.Starts other :=
    Cursor.not_starts_of_ne starts different
  have behindCalls {second : Peg} (different : kind ≠ .name) (takes : second.Takes cursor) :
      ((Peg.rule .binaryCall).choice ((Peg.rule .unaryCall).choice second)).Takes cursor :=
    .right startsWith_binaryCall (refuses different) starts wanted
      (.right startsWith_unaryCall (refuses different) starts wanted takes)
  obtain ⟨word, place, yields⟩ := starts
  refine .rule .atom ?_
  simp only [List.mem_cons, List.not_mem_nil, or_false] at listed
  rcases listed with rfl | rfl | rfl | rfl
  · have misses := (misses_terminal (refuses (by simp : _ ≠ Terminal.number))).choice
      ((misses_terminal (refuses (by simp : _ ≠ Terminal.argument))).choice
        (startsWith_group cursor (refuses (by simp))))
    refine takes_calls yields inner misses ?_
    simp only [Expected.position_merge, Expected.position_single, Nat.max_self]
  · have completes := completes_word yields (by simp) fun _ => .number
    exact behindCalls (by simp) (Or.inl ⟨_, _, completes.left⟩)
  · have completes := completes_word yields (by simp) fun _ => .argument
    exact behindCalls (by simp) (.right (startsWith_terminal .number) (refuses (by simp))
      yields.starts wanted (Or.inl ⟨_, _, completes.left⟩))
  · have group := takes_group yields (inner place (yields.precedes (by simp)).shorter)
    exact behindCalls (by simp) (.right (startsWith_terminal .number) (refuses (by simp))
      yields.starts wanted (.right (startsWith_terminal .argument) (refuses (by simp))
        yields.starts wanted group))

/-- Without the first word of an atom all four kinds have failed, in their order. -/
theorem Peg.misses_atom
    (refuses : ∀ kind ∈ [Terminal.name, .number, .argument, .openParenthesis],
      ¬cursor.Starts kind) :
    (Peg.rule .atom).Misses cursor
      ⟨cursor.next.position, [.name, .number, .argument, .openParenthesis]⟩ := by
  simp only [List.forall_mem_cons] at refuses
  obtain ⟨name, number, argument, opening, -⟩ := refuses
  have all := (startsWith_binaryCall cursor name).choice <|
    (startsWith_unaryCall cursor name).choice <| (misses_terminal number).choice <|
      (misses_terminal argument).choice (startsWith_group cursor opening)
  simp only [Expected.single, Expected.merge_at] at all
  exact .rule .atom all

theorem Rule.reads_unary
    (inner : ∀ inside : Cursor, inside.ahead.length < cursor.ahead.length →
      (Rule.chain .logicalOr).Reads inside)
    (operand : ∀ inside : Cursor, inside.ahead.length < cursor.ahead.length →
      Rule.unary.Reads inside) : Rule.unary.Reads cursor := by
  by_cases starts : cursor.Starts .prefixOperator
  · have misses := @Peg.misses_atom cursor fun kind listed =>
      Cursor.not_starts_of_ne starts (by rintro rfl; simp at listed)
    obtain ⟨word, place, yields⟩ := starts
    have precedes := yields.precedes (by simp)
    rcases operand place precedes.shorter with ⟨rest, record, ended⟩ | ⟨record, stuck⟩
    · have passes := Peg.Passes.behind_word yields ended.passes.nested
      exact Or.inl ⟨rest, record,
        { passes := .rule .unary passes.left
          precedes := precedes.trans ended.precedes
          closed := ended.closed
          seen := ended.seen
          blocked around _ blocked := .step yields .prefixed (ended.blocked _ _ blocked) }⟩
    · have later := Nat.lt_of_lt_of_le precedes.further (stuck.blocked []).position_le
      have failed : (Peg.rule .unary).Misses place record := by
        rcases stuck.leaves with failed | ⟨_, _, _, _, _, listed, _⟩
        · exact failed
        · cases listed
      have all := (Peg.Misses.behind_word yields failed.nested).choice misses
      rw [Expected.merge_of_gt later] at all
      exact Or.inr ⟨record, fun around => .step yields .prefixed (stuck.blocked around),
        Or.inl (.rule .unary all)⟩
  · have fails := (Peg.startsWith_terminal .prefixOperator).sequence (.nested (.rule .unary))
    by_cases some : ∃ kind ∈ [Terminal.name, .number, .argument, .openParenthesis],
        cursor.Starts kind
    · obtain ⟨kind, listed, starts'⟩ := some
      have takes := Peg.Takes.right fails starts starts' (List.mem_cons_of_mem _ listed)
        (Peg.takes_atom inner starts' listed)
      exact (takes.rule .unary).reads rfl
    · have refuses (kind : Terminal)
          (listed : kind ∈ [Terminal.name, .number, .argument, .openParenthesis]) :
          ¬cursor.Starts kind :=
        fun starts => some ⟨kind, listed, starts⟩
      have all := (fails cursor starts).choice (Peg.misses_atom refuses)
      rw [Expected.single, Expected.merge_at] at all
      refine Or.inr ⟨_, fun around => ?_, Or.inl (.rule .unary all)⟩
      exact @Blocked.here ⟨.operand, around⟩ cursor (List.forall_mem_cons.mpr ⟨starts, refuses⟩)

/-! ## Chains -/

def Level.links (level : Level) : Peg :=
  .many (.sequence (.terminal level.operator) (.rule level.operand))

/-- The links behind an operand end where no operator of the level continues them. -/
structure Level.LinksEnded (level : Level) (cursor rest : Cursor) (record : Expected) : Prop where
  passes : level.links.Passes cursor rest record
  le : rest.ahead.length ≤ cursor.ahead.length
  position_le : cursor.next.position ≤ rest.next.position
  closed : ∀ kind ∈ (Rule.chain level).joints, ¬rest.Starts kind
  seen : ∀ earlier : Expected, earlier.Seen cursor level.operand.joints →
    (earlier.merge record).Seen rest (Rule.chain level).joints
  blocked : ∀ around record, Blocked ⟨.joint, around⟩ rest record →
    Blocked ⟨.joint, around⟩ cursor record

/-- The text is blocked in the operand of a link. -/
structure Level.LinksStuck (level : Level) (cursor : Cursor) (record : Expected) : Prop where
  blocked : ∀ around, Blocked ⟨.joint, around⟩ cursor record
  before : cursor.next.position < record.position
  passes : ∃ rest, level.links.Passes cursor rest record ∧
    rest.ahead.length ≤ cursor.ahead.length ∧ rest.next.position < record.position ∧
    ∃ kind ∈ (Rule.chain level).joints, rest.Starts kind

/-- In front of a tighter operator no further link is found, and nothing is added to the record. -/
theorem Level.passes_links (level : Level) (listed : kind ∈ level.operand.joints)
    (starts : cursor.Starts kind) :
    level.links.Passes cursor cursor (.single cursor.next.position level.operator) := by
  have different : kind ≠ level.operator := fun same =>
    operator_not_mem_joints level (same ▸ listed)
  have refuses := Cursor.not_starts_of_ne starts different
  exact .stop (Peg.misses_terminal refuses).sequence

theorem mem_joints_of_operand (listed : kind ∈ level.operand.joints) :
    kind ∈ (Rule.chain level).joints := by
  rw [joints_chain]
  exact List.mem_append_left _ listed

theorem operator_mem_joints (level : Level) : level.operator ∈ (Rule.chain level).joints := by
  rw [joints_chain]
  exact List.mem_append_right _ List.mem_cons_self

theorem Level.linksStuck_of_stuck (yields : cursor.Yields level.operator word place)
    (stuck : level.operand.Stuck place record) : level.LinksStuck cursor record := by
  have precedes := yields.precedes (operator_ne_endOfText level)
  have before := Nat.lt_of_lt_of_le precedes.further (stuck.blocked []).position_le
  refine ⟨fun around => .step yields (.operator (operator_mem_operators level))
    (stuck.blocked around), before, ?_⟩
  rcases stuck.leaves with misses | ⟨rest, passes, le, before', kind, listed, starts⟩
  · exact ⟨cursor, .stop (.behind_word yields misses), Nat.le_refl _, before, level.operator,
      operator_mem_joints level, yields.starts⟩
  · have shorter := Nat.lt_of_le_of_lt le precedes.shorter
    have all := Peg.Passes.more (.behind_word yields passes) shorter
      (level.passes_links listed starts)
    rw [Expected.merge_of_gt before'] at all
    exact ⟨rest, all, Nat.le_of_lt shorter, before', kind, mem_joints_of_operand listed, starts⟩

/-- The links behind an operand are read to their end, or one of them is stuck. -/
theorem Level.links_cases (level : Level) {length : Nat}
    (operands : ∀ inside : Cursor, inside.ahead.length < length → level.operand.Reads inside)
    (below : cursor.ahead.length < length)
    (closed : ∀ kind ∈ level.operand.joints, ¬cursor.Starts kind) :
    (∃ rest record, level.LinksEnded cursor rest record) ∨
      ∃ record, level.LinksStuck cursor record := by
  induction measure : cursor.ahead.length using Nat.strong_induction_on generalizing cursor with
  | _ measure inductionHypothesis =>
  subst measure
  by_cases starts : cursor.Starts level.operator
  · obtain ⟨word, place, yields⟩ := starts
    have precedes := yields.precedes (operator_ne_endOfText level)
    have step (around : List Opening) : Standing.Step ⟨.joint, around⟩ level.operator
        ⟨.operand, around⟩ :=
      .operator (operator_mem_operators level)
    rcases operands place (by have := precedes.shorter; omega) with
      ⟨rest, record, ended⟩ | ⟨record, stuck⟩
    · have both := precedes.trans ended.precedes
      have once := Peg.Passes.behind_word yields ended.passes
      have shorter := Nat.lt_trans both.shorter below
      rcases inductionHypothesis _ both.shorter shorter ended.closed rfl with
        ⟨final, later, links⟩ | ⟨later, links⟩
      · have further := Nat.lt_of_lt_of_le both.further links.position_le
        exact Or.inl ⟨final, record.merge later,
          { passes := once.more both.shorter links.passes
            le := Nat.le_trans links.le (Nat.le_of_lt both.shorter)
            position_le := Nat.le_of_lt further
            closed := links.closed
            seen earlier seen :=
              (links.seen record ended.seen).after (Nat.lt_of_le_of_lt seen.position_le further)
            blocked around last blocked :=
              .step yields (step around) (ended.blocked _ _ (links.blocked _ _ blocked)) }⟩
      · obtain ⟨final, passes, le, before, kind, listed, starts⟩ := links.passes
        have all := once.more both.shorter passes
        rw [Expected.merge_of_lt (Nat.lt_of_le_of_lt ended.seen.position_le links.before)] at all
        exact Or.inr ⟨later,
          { blocked around := .step yields (step around) (ended.blocked _ _ (links.blocked around))
            before := Nat.lt_trans both.further links.before
            passes := ⟨final, all, Nat.le_trans le (Nat.le_of_lt both.shorter), before, kind,
              listed, starts⟩ }⟩
    · exact Or.inr ⟨record, level.linksStuck_of_stuck yields stuck⟩
  · refine Or.inl ⟨cursor, _,
      { passes := .stop (Peg.misses_terminal starts).sequence
        le := Nat.le_refl _
        position_le := Nat.le_refl _
        closed := ?_
        seen := fun earlier seen => ?_
        blocked := fun _ _ blocked => blocked }⟩
    · rw [joints_chain]
      exact List.forall_mem_append.mpr ⟨closed, by simpa using starts⟩
    · rw [seen.merge_single (operator_not_mem_joints level), joints_chain]
      exact Expected.seen_all _ _

/-- A chain is read if the operands of its level are. -/
theorem Rule.reads_chain (level : Level) {length : Nat}
    (operands : ∀ inside : Cursor, inside.ahead.length < length → level.operand.Reads inside)
    (cursor : Cursor) (below : cursor.ahead.length < length) :
    (Rule.chain level).Reads cursor := by
  rcases operands cursor below with ⟨place, first, ended⟩ | ⟨record, stuck⟩
  · have before := ended.seen.position_le
    rcases level.links_cases operands (Nat.lt_trans ended.precedes.shorter below) ended.closed with
      ⟨rest, record, links⟩ | ⟨record, links⟩
    · exact Or.inl ⟨rest, first.merge record,
        { passes := .rule _ (ended.passes.sequence links.passes)
          precedes :=
            { further := Nat.lt_of_lt_of_le ended.precedes.further links.position_le
              shorter := Nat.lt_of_le_of_lt links.le ended.precedes.shorter }
          closed := links.closed
          seen := links.seen first ended.seen
          blocked around _ blocked := ended.blocked _ _ (links.blocked _ _ blocked) }⟩
    · obtain ⟨rest, passes, le, before', kind, listed, starts⟩ := links.passes
      have all := ended.passes.sequence passes
      rw [Expected.merge_of_lt (Nat.lt_of_le_of_lt before links.before)] at all
      exact Or.inr ⟨record, fun around => ended.blocked _ _ (links.blocked around),
        Or.inr ⟨rest, .rule _ all, Nat.le_trans le (Nat.le_of_lt ended.precedes.shorter), before',
          kind, listed, starts⟩⟩
  · refine Or.inr ⟨record, stuck.blocked, ?_⟩
    rcases stuck.leaves with misses | ⟨rest, passes, le, before, kind, listed, starts⟩
    · exact Or.inl (.rule _ misses.sequence)
    · have all := passes.sequence (level.passes_links listed starts)
      rw [Expected.merge_of_gt before] at all
      exact Or.inr ⟨rest, .rule _ all, le, before, kind, mem_joints_of_operand listed, starts⟩

/-! ## Formulas -/

/-- Prefixes, operands and chains read every text up to a place behind an operand, or up to where it
is blocked. -/
theorem Rule.reads (length : Nat) :
    (∀ cursor : Cursor, cursor.ahead.length < length → Rule.unary.Reads cursor) ∧
      ∀ level (cursor : Cursor), cursor.ahead.length < length →
        (Rule.chain level).Reads cursor := by
  induction length with
  | zero => exact ⟨fun _ below => absurd below (Nat.not_lt_zero _),
      fun _ _ below => absurd below (Nat.not_lt_zero _)⟩
  | succ length inductionHypothesis =>
      obtain ⟨operands, chains⟩ := inductionHypothesis
      have unary (cursor : Cursor) (below : cursor.ahead.length < length + 1) :
          Rule.unary.Reads cursor :=
        reads_unary (fun inside shorter => chains .logicalOr inside (by omega))
          fun inside shorter => operands inside (by omega)
      let reads (name : Rule) : Prop :=
        ∀ cursor : Cursor, cursor.ahead.length < length + 1 → name.Reads cursor
      exact ⟨unary, @Level.induction reads unary fun level operands => reads_chain level operands⟩

/-- A text is a formula, or its record is where it is blocked. -/
theorem formula_cases (cursor : Cursor) :
    (∃ rest record, Rule.formula.body.Passes cursor rest record) ∨
      ∃ record, Rule.formula.body.Misses cursor record ∧ Blocked .start cursor record := by
  have ending : Terminal.endOfText ∉ operators := by decide
  have reads := (Rule.reads _).2 .logicalOr cursor (Nat.lt_succ_self _)
  rcases reads.last_cases ending with
    ⟨_, record, _, rest, ended, yields⟩ | ⟨record, misses, blocked⟩
  · exact Or.inl ⟨rest, record, ended.last yields⟩
  · exact Or.inr ⟨record, misses, blocked [] rfl⟩

end Reckon.Grammar
