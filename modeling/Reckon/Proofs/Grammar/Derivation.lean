import Reckon.Proofs.Grammar.Run
import Reckon.Proofs.Grammar.Token

/-!
# The grammar as a context-free grammar

`Peg.Derives` reads the parsing expressions of the rules without any order: every alternative
of a choice may be taken and a repetition may end anywhere.  What a run reads is derived in
this sense (`Peg.Matches.derives`).  `Peg.Derives.made` is the induction over the rules of a
derivation: what every rule keeps that is put together according to its expression holds of
everything that is derived.
-/

namespace Reckon.Grammar

/-- Some tokens are derived from an expression, and leave some parse trees. -/
inductive Peg.Derives : Peg → List Token → List ParseTree → Prop
  | terminal (token : Token) :
      Derives (.terminal token.kind) [token] (ParseTree.ofWord token.kind token.word)
  | rule {name : Rule} {tokens : List Token} {trees : List ParseTree} :
      Derives name.body tokens trees →
      Derives (.rule name) tokens [.node name trees]
  | sequence {first second : Peg} {tokens others : List Token} {trees more : List ParseTree} :
      Derives first tokens trees →
      Derives second others more →
      Derives (.sequence first second) (tokens ++ others) (trees ++ more)
  | left {first second : Peg} {tokens : List Token} {trees : List ParseTree} :
      Derives first tokens trees →
      Derives (.choice first second) tokens trees
  | right {first second : Peg} {tokens : List Token} {trees : List ParseTree} :
      Derives second tokens trees →
      Derives (.choice first second) tokens trees
  | stop {repeated : Peg} :
      Derives (.many repeated) [] []
  | more {repeated : Peg} {tokens others : List Token} {trees more : List ParseTree} :
      Derives repeated tokens trees →
      Derives (.many repeated) others more →
      Derives (.many repeated) (tokens ++ others) (trees ++ more)
  | nested {inside : Peg} {tokens : List Token} {trees : List ParseTree} :
      Derives inside tokens trees →
      Derives (.nested inside) tokens trees

/-! ## What is read is derived -/

/-- What a terminal takes off a text is one token behind some blanks. -/
theorem Terminal.derives_of_run {kind : Terminal} {cursor rest : Cursor}
    {trees : List ParseTree} {expected : Expected}
    (run : kind.run cursor = .matched trees rest expected) :
    ∃ tokens text, (Peg.terminal kind).Derives tokens trees ∧ Layout tokens text ∧
      cursor.ahead = text ++ rest.ahead := by
  obtain ⟨position, ahead⟩ := cursor
  have blank : ∀ c ∈ ahead.takeWhile isBlank, isBlank c = true :=
    List.all_eq_true.mp List.all_takeWhile
  have starts (c : Char) (front : (ahead.dropWhile isBlank).head? = some c) :
      isBlank c = false := by
    have := List.head?_dropWhile_not isBlank ahead
    rw [front] at this
    simpa using this
  have split : ahead.takeWhile isBlank ++ ahead.dropWhile isBlank = ahead :=
    List.takeWhile_append_dropWhile
  rw [← split, Terminal.run_blanks_append kind position blank starts] at run
  cases taken : kind.take? (ahead.dropWhile isBlank) with
  | none => simp [taken] at run
  | some word =>
      simp only [taken, Result.matched.injEq] at run
      obtain ⟨rfl, rfl, -⟩ := run
      obtain ⟨spelled, behind, front⟩ := Terminal.spells_of_take?_eq_some taken
      let token : Token := { kind, word, spelled }
      refine ⟨[token], _, .terminal token, .cons token blank .nil, ?_⟩
      rw [← front, List.drop_left, List.append_nil, List.append_assoc, front, split]

/-- What a run reads off a text is laid out as tokens that the expression derives. -/
theorem Peg.Matches.derives {spare : Nat} {expression : Peg} {cursor rest : Cursor}
    {trees : List ParseTree} (matched : expression.Matches spare cursor trees rest) :
    ∃ tokens text, expression.Derives tokens trees ∧ Layout tokens text ∧
      cursor.ahead = text ++ rest.ahead := by
  match expression with
  | .terminal kind =>
      obtain ⟨expected, run⟩ := matched
      rw [Peg.run] at run
      exact Terminal.derives_of_run run
  | .rule name =>
      obtain ⟨inner, rfl, body⟩ := matched.of_rule
      obtain ⟨tokens, text, derives, layout, split⟩ := body.derives
      exact ⟨tokens, text, .rule derives, layout, split⟩
  | .sequence first second =>
      obtain ⟨before, place, behind, rfl, one, other⟩ := matched.of_sequence
      obtain ⟨tokens, text, derives, layout, split⟩ := one.derives
      obtain ⟨tokens', text', derives', layout', split'⟩ := other.derives
      refine ⟨_, _, .sequence derives derives', layout.append layout', ?_⟩
      rw [split, split', List.append_assoc]
  | .choice first second =>
      rcases matched.of_choice with one | ⟨-, other⟩
      · obtain ⟨tokens, text, derives, layout, split⟩ := one.derives
        exact ⟨tokens, text, .left derives, layout, split⟩
      · obtain ⟨tokens, text, derives, layout, split⟩ := other.derives
        exact ⟨tokens, text, .right derives, layout, split⟩
  | .many repeated =>
      rcases matched.of_many with ⟨rfl, rfl⟩ | one | ⟨once, place, again, rfl, one, shorter, other⟩
      · exact ⟨[], [], .stop, .nil, rfl⟩
      · obtain ⟨tokens, text, derives, layout, split⟩ := one.derives
        exact ⟨tokens, text, by simpa using Peg.Derives.more derives .stop, layout, split⟩
      · obtain ⟨tokens, text, derives, layout, split⟩ := one.derives
        obtain ⟨tokens', text', derives', layout', split'⟩ := other.derives
        refine ⟨_, _, .more derives derives', layout.append layout', ?_⟩
        rw [split, split', List.append_assoc]
  | .nested inside =>
      obtain ⟨less, rfl, within⟩ := matched.of_nested
      obtain ⟨tokens, text, derives, layout, split⟩ := within.derives
      exact ⟨tokens, text, .nested derives, layout, split⟩
termination_by (spare, expression.height, cursor.ahead.length)
decreasing_by
  all_goals simp [Prod.lex_def, Peg.height, Rule.height_body_lt]
  all_goals omega

/-! ## Induction over rules -/

/-- Tokens and trees are put together according to an expression, from parts that hold of the
rules in it. -/
def Peg.Made (holds : Rule → List Token → ParseTree → Prop) :
    Peg → List Token → List ParseTree → Prop
  | .terminal kind, tokens, trees =>
      ∃ token : Token, token.kind = kind ∧ tokens = [token] ∧
        trees = ParseTree.ofWord kind token.word
  | .rule name, tokens, trees => ∃ tree, trees = [tree] ∧ holds name tokens tree
  | .sequence first second, tokens, trees =>
      ∃ before behind some others, tokens = before ++ behind ∧ trees = some ++ others ∧
        first.Made holds before some ∧ second.Made holds behind others
  | .choice first second, tokens, trees =>
      first.Made holds tokens trees ∨ second.Made holds tokens trees
  | .many repeated, tokens, trees =>
      ∃ rounds : List (List Token × List ParseTree),
        tokens = rounds.flatMap Prod.fst ∧ trees = rounds.flatMap Prod.snd ∧
          ∀ round ∈ rounds, repeated.Made holds round.1 round.2
  | .nested inside, tokens, trees => inside.Made holds tokens trees

/-- What every rule keeps holds of all that is derived. -/
theorem Peg.Derives.made {holds : Rule → List Token → ParseTree → Prop}
    (keeps : ∀ name tokens trees, name.body.Made holds tokens trees →
      holds name tokens (.node name trees))
    {expression : Peg} {tokens : List Token} {trees : List ParseTree}
    (derives : expression.Derives tokens trees) : expression.Made holds tokens trees := by
  induction derives with
  | terminal token => exact ⟨token, rfl, rfl, rfl⟩
  | rule _ inductionHypothesis => exact ⟨_, rfl, keeps _ _ _ inductionHypothesis⟩
  | sequence _ _ firstHypothesis secondHypothesis =>
      exact ⟨_, _, _, _, rfl, rfl, firstHypothesis, secondHypothesis⟩
  | left _ inductionHypothesis => exact Or.inl inductionHypothesis
  | right _ inductionHypothesis => exact Or.inr inductionHypothesis
  | stop => exact ⟨[], rfl, rfl, by simp⟩
  | more _ _ onceHypothesis moreHypothesis =>
      obtain ⟨rounds, rfl, rfl, all⟩ := moreHypothesis
      exact ⟨(_, _) :: rounds, rfl, rfl, List.forall_mem_cons.mpr ⟨onceHypothesis, all⟩⟩
  | nested _ inductionHypothesis => exact inductionHypothesis

end Reckon.Grammar
