import Reckon.Proofs.Formula.Phrase

/-!
# Phrases are read

Ordered choice and greedy repetition lose nothing of what the grammar derives: behind a phrase
that no token continues, a run of its rule ends exactly behind the phrase, with a tree of the
same formula, as soon as the depth of the formula may be open at once (`Formula.Phrase.readable`).
-/

namespace Reckon.Formula

open Grammar (Level Lexed ParseTree Peg Rule Terminal Token)

/-- Whether a token of a kind behind an expression of a rule would be read as part of it: the
operators of its level and of all tighter ones. -/
def continues : Rule → Terminal → Bool
  | .chain level, kind =>
      Level.all.any fun other => decide (other.tighter ≤ level.tighter) && other.operator == kind
  | _, _ => false

theorem continues_operator (level : Level) : continues (.chain level) level.operator = true := by
  cases level <;> rfl

theorem not_continues_operand (level : Level) :
    continues level.operand level.operator = false := by
  cases level <;> rfl

theorem continues_of_operand (level : Level) (kind : Terminal)
    (tighter : continues level.operand kind = true) : continues (.chain level) kind = true := by
  cases level <;> cases kind <;> first | rfl | cases tighter

/-- No token in front of the others continues an expression of the rule. -/
def Closed (name : Rule) (tokens : List Token) : Prop :=
  ∀ token ∈ tokens.head?, continues name token.kind = false

/-- A run of a rule reads some tokens as a formula, whatever follows that does not continue
them.  A call of one input is not read as a call of two. -/
def Readable (name : Rule) (tokens : List Token) (formula : Formula) : Prop :=
  ∀ {more : List Token} {spare : Nat} {cursor : Cursor},
    Lexed (tokens ++ more) cursor.ahead →
    Closed name more →
    formula.depth ≤ spare →
    (name = .unaryCall → (Peg.rule .binaryCall).Fails spare cursor) ∧
    ∃ tree place, ofTree? tree = some formula ∧
      (Peg.rule name).Matches spare cursor [tree] place ∧
      Lexed more place.ahead ∧ place.ahead.length < cursor.ahead.length

/-- What is no chain ends without looking at what follows. -/
theorem Closed.of_atomic {name : Rule} (atomic : ∀ level, name ≠ .chain level)
    (tokens : List Token) : Closed name tokens := by
  intro token _
  cases name with
  | chain level => exact absurd rfl (atomic level)
  | _ => rfl

/-- What closes a chain also closes its operands, whether or not links stand between. -/
theorem Closed.operand {level : Level} {links : List Link} {more : List Token}
    (closed : Closed (.chain level) more)
    (kinds : ∀ link ∈ links, link.operator.kind = level.operator) :
    Closed level.operand (links.flatMap Link.all ++ more) := by
  intro token front
  cases links with
  | nil =>
      have := closed token front
      refine Bool.eq_false_iff.mpr fun tighter => ?_
      rw [continues_of_operand level _ tighter] at this
      cases this
  | cons link links =>
      obtain rfl : link.operator = token := by simpa [Link.all] using front
      rw [kinds link List.mem_cons_self]
      exact not_continues_operand level

/-- How the tokens of an atom start. -/
theorem Phrase.head_kind {name : Rule} {tokens : List Token} {formula : Formula}
    (phrase : Phrase name tokens formula) :
    ∃ token others, tokens = token :: others ∧
      (name = .group → token.kind = .openParenthesis) ∧
      (name = .unaryCall ∨ name = .binaryCall → token.kind = .name) ∧
      (name = .atom → token.kind ≠ .prefixOperator) := by
  induction phrase with
  | number kind => exact ⟨_, _, rfl, by simp, by simp, by simp [kind]⟩
  | argument kind => exact ⟨_, _, rfl, by simp, by simp, by simp [kind]⟩
  | group openingKind => exact ⟨_, _, rfl, by simp [openingKind], by simp, by simp⟩
  | unaryCall nameKind => exact ⟨_, _, rfl, by simp, by simp [nameKind], by simp⟩
  | binaryCall nameKind => exact ⟨_, _, rfl, by simp, by simp [nameKind], by simp⟩
  | enclosed closed _ inner =>
      obtain ⟨token, others, rfl, group, call, -⟩ := inner
      refine ⟨token, others, rfl, by simp, by simp, fun _ => ?_⟩
      rcases closed with rfl | rfl | rfl
      · simp [group rfl]
      · simp [call (Or.inl rfl)]
      · simp [call (Or.inr rfl)]
  | bare _ inner =>
      obtain ⟨token, others, rfl, -⟩ := inner
      exact ⟨token, others, rfl, by simp, by simp, by simp⟩
  | prefixed kind => exact ⟨_, _, rfl, by simp, by simp, by simp⟩
  | chain links _ _ _ first =>
      obtain ⟨token, others, rfl, -⟩ := first
      exact ⟨token, _, rfl, by simp, by simp, by simp⟩

/-- The links of a chain are read up to where no further link follows. -/
theorem links_readable {level : Level} {links : List Link}
    (kinds : ∀ link ∈ links, link.operator.kind = level.operator)
    (operands : ∀ link ∈ links, Readable level.operand link.tokens link.operand)
    {more : List Token} {spare : Nat} {cursor : Cursor}
    (lexed : Lexed (links.flatMap Link.all ++ more) cursor.ahead)
    (closed : Closed (.chain level) more) (room : depthLinks (links.map Link.entry) ≤ spare) :
    ∃ trees place, linksOf? trees = some (links.map Link.entry) ∧
      (Peg.many (.sequence (.terminal level.operator) (.rule level.operand))).Matches spare cursor
        trees place ∧
      Lexed more place.ahead ∧ place.ahead.length ≤ cursor.ahead.length := by
  induction links generalizing cursor with
  | nil =>
      cases more with
      | nil => cases lexed
      | cons token others =>
          have different : token.kind ≠ level.operator := by
            intro same
            have := closed token rfl
            rw [same, continues_operator] at this
            cases this
          exact ⟨[], cursor, by simp [linksOf?], .stop (.sequence (lexed.fails_terminal different)),
            lexed, Nat.le_refl _⟩
  | cons link links inductionHypothesis =>
      obtain ⟨kind, kinds⟩ := List.forall_mem_cons.mp kinds
      obtain ⟨readable, operands⟩ := List.forall_mem_cons.mp operands
      rw [List.map_cons, Link.entry, depthLinks, Nat.max_le] at room
      rw [List.flatMap_cons, Link.all, List.cons_append, List.cons_append,
        List.append_assoc] at lexed
      have inside : level.operator ≠ .endOfText := by cases level <;> simp [Level.operator]
      obtain ⟨place, operator, rest, shorter⟩ := lexed.matches_terminal spare kind inside
      have next := closed.operand kinds
      obtain ⟨-, tree, place', made, operand, rest', shorter'⟩ := readable rest next room.1
      obtain ⟨trees, place'', linksMade, others, rest'', shorter''⟩ :=
        inductionHypothesis kinds operands rest' room.2
      refine ⟨_, place'', ?_, .more (.sequence operator operand) ?_ others, rest'', ?_⟩
      · simp [linksOf?, ParseTree.ofWord, not_isPunctuation_operator level, made, linksMade,
          Link.entry]
      · exact Nat.lt_trans shorter' shorter
      · omega

/-- Without a name in front no call is begun. -/
theorem fails_calls {token : Token} {tokens : List Token} (spare : Nat) {cursor : Cursor}
    (lexed : Lexed (token :: tokens) cursor.ahead) (different : token.kind ≠ .name) :
    (Peg.rule .binaryCall).Fails spare cursor ∧ (Peg.rule .unaryCall).Fails spare cursor := by
  have noName : (Peg.terminal .name).Fails spare cursor := lexed.fails_terminal different
  exact ⟨.rule (.sequence noName), .rule (.sequence noName)⟩

/-- What stands behind an opening parenthesis is read up to its end. -/
theorem Readable.inside {tokens more : List Token} {formula : Formula} {ending : Token}
    {spare : Nat} {cursor : Cursor} (readable : Readable (.chain .logicalOr) tokens formula)
    (ends : ending.kind = .comma ∨ ending.kind = .closeParenthesis)
    (lexed : Lexed (tokens ++ ending :: more) cursor.ahead) (room : formula.depth ≤ spare) :
    ∃ tree place, ofTree? tree = some formula ∧
      Rule.inner.Matches spare cursor [tree] place ∧
      Lexed (ending :: more) place.ahead ∧ place.ahead.length < cursor.ahead.length := by
  refine (readable lexed (fun token front => ?_) room).2
  obtain rfl : ending = token := by simpa using front
  rcases ends with kind | kind <;> (rw [kind]; rfl)

/-! ## Every form of phrase -/

theorem Readable.number {token : Token} (kind : token.kind = .number) :
    Readable .atom [token] (.number (literalValue token.word)) := by
  intro more spare cursor lexed _ _
  refine ⟨by simp, ?_⟩
  obtain ⟨place, taken, rest, shorter⟩ := lexed.matches_terminal spare kind (by simp)
  have different : token.kind ≠ .name := by simp [kind]
  obtain ⟨binary, unary⟩ := fails_calls spare lexed different
  have atom : Rule.atom.body.Matches spare cursor _ place :=
    .right binary (.right unary (.left taken))
  refine ⟨_, place, ?_, .rule atom, rest, shorter⟩
  simp [ofTree?, ParseTree.ofWord, Terminal.isPunctuation]

theorem Readable.argument {token : Token} (kind : token.kind = .argument) :
    Readable .atom [token] (.argument (String.ofList token.word)) := by
  intro more spare cursor lexed _ _
  refine ⟨by simp, ?_⟩
  obtain ⟨place, taken, rest, shorter⟩ := lexed.matches_terminal spare kind (by simp)
  have different : token.kind ≠ .name := by simp [kind]
  obtain ⟨binary, unary⟩ := fails_calls spare lexed different
  have number : (Peg.terminal .number).Fails spare cursor := lexed.fails_terminal (by simp [kind])
  have atom : Rule.atom.body.Matches spare cursor _ place :=
    .right binary (.right unary (.right number (.left taken)))
  refine ⟨_, place, ?_, .rule atom, rest, shorter⟩
  simp [ofTree?, ParseTree.ofWord, Terminal.isPunctuation]

/-- What is readable stays so in parentheses, one level further in. -/
theorem Readable.group {opening closing : Token} {tokens : List Token} {inside : Formula}
    (openingKind : opening.kind = .openParenthesis)
    (closingKind : closing.kind = .closeParenthesis)
    (readable : Readable (.chain .logicalOr) tokens inside) :
    Readable .group (opening :: (tokens ++ [closing])) (.group inside) := by
  intro more spare cursor lexed _ room
  refine ⟨by simp, ?_⟩
  rw [Formula.depth] at room
  obtain ⟨less, rfl⟩ := Nat.exists_eq_add_of_le' (Nat.le_of_add_left_le room)
  rw [List.cons_append, List.append_assoc] at lexed
  obtain ⟨place, opened, rest, shorter⟩ :=
    lexed.matches_terminal (less + 1) openingKind (by simp)
  obtain ⟨tree, place', made, within, rest', shorter'⟩ :=
    readable.inside (Or.inr closingKind) rest (Nat.le_of_succ_le_succ room)
  obtain ⟨place'', closed, rest'', shorter''⟩ :=
    rest'.matches_terminal less closingKind (by simp)
  have inner := Peg.Matches.nested (.sequence within closed)
  refine ⟨_, place'', ?_, .rule (.sequence opened inner), rest'', ?_⟩
  · simp [ofTree?, ParseTree.ofWord, Terminal.isPunctuation, made]
  · omega

/-- A call of one input is not read as a call of two, as there is no comma behind the input. -/
theorem Readable.unaryCall {name opening closing : Token} {tokens : List Token} {input : Formula}
    (nameKind : name.kind = .name) (openingKind : opening.kind = .openParenthesis)
    (closingKind : closing.kind = .closeParenthesis)
    (readable : Readable (.chain .logicalOr) tokens input) :
    Readable .unaryCall (name :: opening :: (tokens ++ [closing]))
      (.call (String.ofList name.word) [input]) := by
  intro more spare cursor lexed _ room
  rw [Formula.depth, depthAll, depthAll, Nat.max_zero] at room
  obtain ⟨less, rfl⟩ := Nat.exists_eq_add_of_le' (Nat.le_of_add_left_le room)
  rw [List.cons_append, List.cons_append, List.append_assoc] at lexed
  obtain ⟨place, named, rest, shorter⟩ :=
    lexed.matches_terminal (less + 1) nameKind (by simp)
  obtain ⟨place₁, opened, rest₁, shorter₁⟩ :=
    rest.matches_terminal (less + 1) openingKind (by simp)
  obtain ⟨tree, place₂, made, within, rest₂, shorter₂⟩ :=
    readable.inside (Or.inr closingKind) rest₁ (Nat.le_of_succ_le_succ room)
  obtain ⟨place₃, closed, rest₃, shorter₃⟩ :=
    rest₂.matches_terminal less closingKind (by simp)
  refine ⟨fun _ => ?_, ?_⟩
  · have noComma : (Peg.terminal .comma).Fails less place₂ :=
      rest₂.fails_terminal (by simp [closingKind])
    refine .rule (.behind named (.behind opened (.nested ?_)))
    exact .behind within (.sequence noComma)
  · have inner := Peg.Matches.nested (.sequence within closed)
    refine ⟨_, place₃, ?_, .rule (.sequence named (.sequence opened inner)), rest₃, ?_⟩
    · simp [ofTree?, ParseTree.ofWord, Terminal.isPunctuation, made]
    · omega

theorem Readable.binaryCall {name opening separator closing : Token} {tokens others : List Token}
    {first second : Formula} (nameKind : name.kind = .name)
    (openingKind : opening.kind = .openParenthesis) (separatorKind : separator.kind = .comma)
    (closingKind : closing.kind = .closeParenthesis)
    (readable : Readable (.chain .logicalOr) tokens first)
    (readable' : Readable (.chain .logicalOr) others second) :
    Readable .binaryCall (name :: opening :: (tokens ++ separator :: (others ++ [closing])))
      (.call (String.ofList name.word) [first, second]) := by
  intro more spare cursor lexed _ room
  refine ⟨by simp, ?_⟩
  rw [Formula.depth, depthAll, depthAll, depthAll, Nat.max_zero] at room
  obtain ⟨less, rfl⟩ := Nat.exists_eq_add_of_le' (Nat.le_of_add_left_le room)
  have fits : first.depth ≤ less := by omega
  have fits' : second.depth ≤ less := by omega
  rw [List.cons_append, List.cons_append, List.append_assoc, List.cons_append,
    List.append_assoc] at lexed
  obtain ⟨place, named, rest, shorter⟩ :=
    lexed.matches_terminal (less + 1) nameKind (by simp)
  obtain ⟨place₁, opened, rest₁, shorter₁⟩ :=
    rest.matches_terminal (less + 1) openingKind (by simp)
  obtain ⟨tree, place₂, made, within, rest₂, shorter₂⟩ :=
    readable.inside (Or.inl separatorKind) rest₁ fits
  obtain ⟨place₃, separated, rest₃, shorter₃⟩ :=
    rest₂.matches_terminal less separatorKind (by simp)
  obtain ⟨tree', place₄, made', within', rest₄, shorter₄⟩ :=
    readable'.inside (Or.inr closingKind) rest₃ fits'
  obtain ⟨place₅, closed, rest₅, shorter₅⟩ :=
    rest₄.matches_terminal less closingKind (by simp)
  have second := Peg.Matches.sequence separated (.sequence within' closed)
  have inner := Peg.Matches.nested (.sequence within second)
  refine ⟨_, place₅, ?_, .rule (.sequence named (.sequence opened inner)), rest₅, ?_⟩
  · simp [ofTree?, ParseTree.ofWord, Terminal.isPunctuation, made, made']
  · omega

/-- The alternatives of an atom in front of the right one fail at its first token, but for the
call of two inputs in front of the call of one. -/
theorem Readable.enclosed {name : Rule} {tokens : List Token} {formula : Formula}
    (listed : name = .group ∨ name = .unaryCall ∨ name = .binaryCall)
    (phrase : Phrase name tokens formula) (readable : Readable name tokens formula) :
    Readable .atom tokens formula := by
  intro more spare cursor lexed _ room
  refine ⟨by simp, ?_⟩
  obtain ⟨token, others, rfl, group, call, -⟩ := phrase.head_kind
  have atomic : Closed name more := by
    apply Closed.of_atomic
    rcases listed with rfl | rfl | rfl <;> simp
  obtain ⟨noBinary, tree, place, made, inner, rest, shorter⟩ := readable lexed atomic room
  rw [List.cons_append] at lexed
  rcases listed with rfl | rfl | rfl
  · have kind := group rfl
    have different : token.kind ≠ .name := by simp [kind]
    obtain ⟨binary, unary⟩ := fails_calls spare lexed different
    have number : (Peg.terminal .number).Fails spare cursor :=
      lexed.fails_terminal (by simp [kind])
    have argument : (Peg.terminal .argument).Fails spare cursor :=
      lexed.fails_terminal (by simp [kind])
    have last := Peg.Matches.right number (.right argument inner)
    exact ⟨_, place, by simpa [ofTree?], .rule (.right binary (.right unary last)), rest, shorter⟩
  · have binary := noBinary rfl
    exact ⟨_, place, by simpa [ofTree?], .rule (.right binary (.left inner)), rest, shorter⟩
  · exact ⟨_, place, by simpa [ofTree?], .rule (.left inner), rest, shorter⟩

theorem Readable.bare {tokens : List Token} {formula : Formula}
    (phrase : Phrase .atom tokens formula) (readable : Readable .atom tokens formula) :
    Readable .unary tokens formula := by
  intro more spare cursor lexed _ room
  refine ⟨by simp, ?_⟩
  obtain ⟨token, others, rfl, -, -, start⟩ := phrase.head_kind
  have atomic : Closed .atom more := Closed.of_atomic (by simp) more
  obtain ⟨-, tree, place, made, inner, rest, shorter⟩ := readable lexed atomic room
  rw [List.cons_append] at lexed
  have noPrefix : (Peg.terminal .prefixOperator).Fails spare cursor :=
    lexed.fails_terminal (start rfl)
  have unary : Rule.unary.body.Matches spare cursor [tree] place :=
    .right (.sequence noPrefix) inner
  exact ⟨_, place, by simpa [ofTree?], .rule unary, rest, shorter⟩

theorem Readable.prefixed {operator : Token} {tokens : List Token} {operand : Formula}
    (kind : operator.kind = .prefixOperator) (readable : Readable .unary tokens operand) :
    Readable .unary (operator :: tokens) (.prefixed (String.ofList operator.word) operand) := by
  intro more spare cursor lexed _ room
  refine ⟨by simp, ?_⟩
  rw [Formula.depth] at room
  obtain ⟨less, rfl⟩ := Nat.exists_eq_add_of_le' (Nat.le_of_add_left_le room)
  rw [List.cons_append] at lexed
  obtain ⟨place, taken, rest, shorter⟩ := lexed.matches_terminal (less + 1) kind (by simp)
  have atomic : Closed .unary more := Closed.of_atomic (by simp) more
  obtain ⟨-, tree, place', made, within, rest', shorter'⟩ :=
    readable rest atomic (Nat.le_of_succ_le_succ room)
  have unary : Rule.unary.body.Matches (less + 1) cursor _ place' :=
    .left (.sequence taken (.nested within))
  refine ⟨_, place', ?_, .rule unary, rest', ?_⟩
  · simp [ofTree?, ParseTree.ofWord, Terminal.isPunctuation, made]
  · omega

/-- A chain takes all of its links: behind the last one no operator of its level follows. -/
theorem Readable.chain {level : Level} {tokens : List Token} {first : Formula} {links : List Link}
    (readable : Readable level.operand tokens first)
    (kinds : ∀ link ∈ links, link.operator.kind = level.operator)
    (operands : ∀ link ∈ links, Readable level.operand link.tokens link.operand) :
    Readable (.chain level) (tokens ++ links.flatMap Link.all)
      (joined level first (links.map Link.entry)) := by
  intro more spare cursor lexed closed room
  refine ⟨by simp, ?_⟩
  rw [depth_joined, Nat.max_le] at room
  rw [List.append_assoc] at lexed
  obtain ⟨-, tree, place, made, leading, rest, shorter⟩ :=
    readable lexed (closed.operand kinds) room.1
  obtain ⟨trees, place', linksMade, following, rest', shorter'⟩ :=
    links_readable kinds operands rest closed room.2
  refine ⟨_, place', ?_, .rule (.sequence leading following), rest', ?_⟩
  · simp [ofTree?, made, linksMade]
  · omega

/-- Every phrase is read by its rule. -/
theorem Phrase.readable {name : Rule} {tokens : List Token} {formula : Formula}
    (phrase : Phrase name tokens formula) : Readable name tokens formula := by
  induction phrase with
  | number kind => exact Readable.number kind
  | argument kind => exact Readable.argument kind
  | group openingKind closingKind _ inside => exact Readable.group openingKind closingKind inside
  | unaryCall nameKind openingKind closingKind _ input =>
      exact Readable.unaryCall nameKind openingKind closingKind input
  | binaryCall nameKind openingKind separatorKind closingKind _ _ first second =>
      exact Readable.binaryCall nameKind openingKind separatorKind closingKind first second
  | enclosed listed phrase inner => exact Readable.enclosed listed phrase inner
  | bare phrase inner => exact Readable.bare phrase inner
  | prefixed kind _ operand => exact Readable.prefixed kind operand
  | chain links _ kinds _ first operands => exact Readable.chain first kinds operands

/-- A sentence is read from the start of its text to the end. -/
theorem Sentence.readable {tokens : List Token} {formula : Formula} {text : List Char}
    (sentence : Sentence tokens formula) (lexed : Lexed tokens text) {spare : Nat}
    (room : formula.depth ≤ spare) :
    ∃ trees place, ofTree? (.node .formula trees) = some formula ∧
      Rule.formula.body.Matches spare (.start text) trees place := by
  obtain ⟨phrase, ending, rfl, ends, isPhrase⟩ := sentence
  have closed : Closed (.chain .logicalOr) [ending] := by
    intro token front
    obtain rfl : ending = token := by simpa using front
    rw [ends]
    rfl
  have start : Lexed (phrase ++ [ending]) (Cursor.start text).ahead := lexed
  obtain ⟨-, tree, place, made, inner, rest, -⟩ := isPhrase.readable start closed room
  obtain ⟨place', ended⟩ := rest.matches_endOfText spare ends
  exact ⟨_, place', by simpa [ofTree?], .sequence inner ended⟩

end Reckon.Formula
