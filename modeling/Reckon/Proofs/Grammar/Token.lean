import Mathlib.Data.List.Chain
import Reckon.Proofs.Grammar.Run
import Reckon.Proofs.Grammar.Word

/-!
# Texts as sequences of tokens

A text is laid out as some tokens if it consists of their words with any blanks in front of
each of them.  `Lexed` says in addition that every word ends where nothing behind it continues
it.  A text that is laid out as tokens which may follow each other is lexed
(`Layout.lexed`); it is so in one way only (`Lexed.unique`), and a terminal matches there if
and only if it is the terminal of the next token (`Lexed.matches_terminal`,
`Lexed.fails_terminal`).
-/

namespace Reckon.Grammar

@[ext]
structure Token where
  kind : Terminal
  word : List Char
  spelled : kind.Spells word

namespace Token

def opening : Token :=
  { kind := .openParenthesis, word := ['('], spelled := Terminal.spells_openParenthesis }

def closing : Token :=
  { kind := .closeParenthesis, word := [')'], spelled := Terminal.spells_closeParenthesis }

def ending : Token :=
  { kind := .endOfText, word := [], spelled := Terminal.spells_endOfText }

end Token

/-- A text consists of the words of some tokens, with any blanks in front of each word. -/
inductive Layout : List Token → List Char → Prop
  | nil : Layout [] []
  | cons {tokens : List Token} {blanks text : List Char} (token : Token) :
      (∀ c ∈ blanks, isBlank c = true) →
      Layout tokens text →
      Layout (token :: tokens) (blanks ++ token.word ++ text)

theorem Layout.append {first second : List Token} {text rest : List Char}
    (before : Layout first text) (behind : Layout second rest) :
    Layout (first ++ second) (text ++ rest) := by
  induction before with
  | nil => exact behind
  | cons token blank _ inductionHypothesis =>
      rw [List.append_assoc]
      exact .cons token blank inductionHypothesis

/-- Tokens with their blanks in front make a text. -/
theorem Layout.of_parts (parts : List (List Char × Token))
    (blank : ∀ part ∈ parts, ∀ c ∈ part.1, isBlank c = true) :
    Layout (parts.map Prod.snd) (parts.flatMap fun part => part.1 ++ part.2.word) := by
  induction parts with
  | nil => exact .nil
  | cons part parts inductionHypothesis =>
      obtain ⟨first, others⟩ := List.forall_mem_cons.mp blank
      rw [List.map_cons, List.flatMap_cons]
      exact .cons part.2 first (inductionHypothesis others)

theorem Layout.cons_word {tokens : List Token} {text : List Char} (token : Token)
    (layout : Layout tokens text) : Layout (token :: tokens) (token.word ++ text) :=
  @Layout.cons _ [] _ token (by simp) layout

/-- The words of some tokens without any blanks. -/
theorem Layout.of_words (tokens : List Token) : Layout tokens (tokens.flatMap Token.word) := by
  induction tokens with
  | nil => exact .nil
  | cons token tokens inductionHypothesis =>
      rw [List.flatMap_cons]
      exact inductionHypothesis.cons_word token

/-- A text is laid out as some tokens up to the end of the text, and nothing behind a word
continues it. -/
inductive Lexed : List Token → List Char → Prop
  | last {blanks : List Char} (token : Token) :
      token.kind = .endOfText →
      (∀ c ∈ blanks, isBlank c = true) →
      Lexed [token] blanks
  | cons {tokens : List Token} {blanks text : List Char} (token : Token) :
      token.kind ≠ .endOfText →
      (∀ c ∈ blanks, isBlank c = true) →
      token.kind.Stops text →
      Lexed tokens text →
      Lexed (token :: tokens) (blanks ++ token.word ++ text)

theorem Token.word_of_endOfText {token : Token} (ends : token.kind = .endOfText) :
    token.word = [] := by
  have spelled := token.spelled
  rw [ends] at spelled
  exact List.mem_singleton.mp spelled

theorem Token.eq_ending {token : Token} (ends : token.kind = .endOfText) : token = .ending := by
  obtain ⟨kind, word, spelled⟩ := token
  obtain rfl : kind = .endOfText := ends
  obtain rfl : word = [] := List.mem_singleton.mp spelled
  rfl

theorem Lexed.layout {tokens : List Token} {text : List Char} (lexed : Lexed tokens text) :
    Layout tokens text := by
  induction lexed with
  | @last blanks token ends blank =>
      have layout := Layout.cons token blank .nil
      rwa [Token.word_of_endOfText ends, List.append_nil, List.append_nil] at layout
  | cons token _ blank _ _ inductionHypothesis => exact .cons token blank inductionHypothesis

theorem Level.joins_operator (level : Level) : level.operator.joins = true := by
  cases level <;> rfl

/-- Whether a token may follow another one in a formula. -/
def Token.MayPrecede (first second : Token) : Prop :=
  first.kind.mayPrecede second.kind = true

theorem Token.MayPrecede.ne_endOfText {first second : Token}
    (allowed : first.MayPrecede second) : first.kind ≠ .endOfText := by
  intro ends
  simp [MayPrecede, Terminal.mayPrecede, Terminal.closes, Terminal.joins, ends] at allowed

/-- What is laid out up to the end of a text may be continued. -/
theorem Layout.continue {before behind : List Token} {ending : Token} {text rest : List Char}
    (layout : Layout (before ++ [ending]) text) (ends : ending.kind = .endOfText)
    (nonempty : behind ≠ []) (layout' : Layout behind rest) :
    Layout (before ++ behind) (text ++ rest) := by
  induction before generalizing text with
  | nil =>
      cases layout with
      | @cons _ blanks _ _ blank nothing =>
          cases nothing
          rw [Token.word_of_endOfText ends, List.append_nil, List.append_nil]
          cases layout' with
          | nil => exact absurd rfl nonempty
          | @cons _ blanks' _ token blank' layout' =>
              have both := Layout.cons token (List.forall_mem_append.mpr ⟨blank, blank'⟩) layout'
              simpa using both
  | cons first before inductionHypothesis =>
      cases layout with
      | cons _ blank rest =>
          rw [List.append_assoc]
          exact .cons first blank (inductionHypothesis rest)

/-- What follows a token does not continue its word. -/
theorem Layout.stops {first second : Token} {tokens : List Token} {text : List Char}
    (allowed : first.MayPrecede second) (layout : Layout (second :: tokens) text)
    (ends : second.kind = .endOfText → tokens = []) : first.kind.Stops text := by
  intro c front
  cases layout with
  | @cons _ blanks behind _ blank rest =>
      cases blanks with
      | cons d blanks =>
          obtain rfl : d = c := by simpa using front
          exact Terminal.not_isContinuedBy_blank allowed.ne_endOfText (blank d List.mem_cons_self)
      | nil =>
          rcases nonempty : second.word with _ | ⟨d, word⟩
          · -- only the end of the text has an empty word, and nothing stands behind it
            have last : second.kind = .endOfText := by
              by_contra inside
              exact second.spelled.ne_nil inside nonempty
            cases ends last
            cases rest
            simp [nonempty] at front
          · obtain rfl : d = c := by simpa [nonempty] using front
            exact Terminal.not_isContinuedBy_of_mayPrecede allowed (nonempty ▸ second.spelled)

/-- A layout of tokens that may follow each other is lexed, whatever is still to come behind the
last one. -/
theorem Layout.lexed_of_isChain {tokens : List Token} {ending : Token} {text : List Char}
    (layout : Layout (tokens ++ [ending]) text) (ends : ending.kind = .endOfText)
    (inside : ∀ token ∈ tokens, token.kind ≠ .endOfText)
    (order : tokens.IsChain Token.MayPrecede) : Lexed (tokens ++ [ending]) text := by
  induction tokens generalizing text with
  | nil =>
      cases layout with
      | cons _ blank rest =>
          cases rest
          rw [Token.word_of_endOfText ends, List.append_nil, List.append_nil]
          exact .last ending ends blank
  | cons first tokens inductionHypothesis =>
      obtain ⟨firstInside, inside⟩ := List.forall_mem_cons.mp inside
      cases layout with
      | @cons _ _ text _ blank rest =>
          have lexed := inductionHypothesis rest inside order.tail
          refine .cons first firstInside blank ?_ lexed
          cases tokens with
          | nil =>
              intro c front
              cases lexed with
              | last _ _ blank =>
                  exact Terminal.not_isContinuedBy_blank firstInside
                    (blank c (List.mem_of_mem_head? front))
              | cons _ _ _ _ nothing => cases nothing
          | cons next tokens =>
              have allowed := (List.isChain_cons_cons.mp order).1
              refine Layout.stops allowed rest fun nextEnds => ?_
              exact absurd nextEnds (inside next List.mem_cons_self)

/-- A layout of tokens that may follow each other up to the end of the text is lexed. -/
theorem Layout.lexed {tokens : List Token} {ending : Token} {text : List Char}
    (layout : Layout (tokens ++ [ending]) text) (ends : ending.kind = .endOfText)
    (order : (tokens ++ [ending]).IsChain Token.MayPrecede) :
    Lexed (tokens ++ [ending]) text := by
  refine layout.lexed_of_isChain ends ?_ order.left_of_append
  intro token member
  obtain ⟨before, behind, rfl⟩ := List.append_of_mem member
  rw [List.append_assoc] at order
  have rest := order.right_of_append
  cases behind with
  | nil => exact (List.isChain_cons_cons.mp rest).1.ne_endOfText
  | cons next behind => exact (List.isChain_cons_cons.mp rest).1.ne_endOfText

/-! ## The token in front of a lexed text -/

/-- What a lexed text looks like from its start: blanks, the word of its first token, and what
stands behind the word. -/
theorem Lexed.front {token : Token} {tokens : List Token} {text : List Char}
    (lexed : Lexed (token :: tokens) text) :
    ∃ blanks behind, text = blanks ++ (token.word ++ behind) ∧
      (∀ c ∈ blanks, isBlank c = true) ∧
      (∀ c, (token.word ++ behind).head? = some c → isBlank c = false) ∧
      token.kind.take? (token.word ++ behind) = some token.word ∧
      ((token.kind = .endOfText ∧ tokens = [] ∧ behind = []) ∨
        (token.kind ≠ .endOfText ∧ Lexed tokens behind)) := by
  cases lexed with
  | last _ ends blank =>
      have empty := Token.word_of_endOfText ends
      refine ⟨text, [], by simp [empty], blank, by simp [empty], ?_, Or.inl ⟨ends, rfl, rfl⟩⟩
      exact Terminal.take?_word_append token.spelled (by simp [Terminal.Stops])
  | @cons _ blanks behind _ inside blank stops rest =>
      refine ⟨blanks, behind, List.append_assoc _ _ _, blank, ?_,
        Terminal.take?_word_append token.spelled stops, Or.inr ⟨inside, rest⟩⟩
      intro c front
      have nonempty := token.spelled.ne_nil inside
      obtain ⟨d, word, split⟩ := List.exists_cons_of_ne_nil nonempty
      obtain rfl : d = c := by simpa [split] using front
      exact Terminal.Spells.head_not_blank (split ▸ token.spelled)

theorem dropWhile_blanks_append {blanks text : List Char}
    (blank : ∀ c ∈ blanks, isBlank c = true)
    (starts : ∀ c, text.head? = some c → isBlank c = false) :
    (blanks ++ text).dropWhile isBlank = text := by
  rw [List.dropWhile_append_of_pos blank]
  cases text with
  | nil => rfl
  | cons c rest => simp [starts c rfl]

/-- A text is lexed in one way only. -/
theorem Lexed.unique {first second : List Token} {text : List Char} (one : Lexed first text)
    (other : Lexed second text) : first = second := by
  induction first generalizing second text with
  | nil => cases one
  | cons token tokens inductionHypothesis =>
      cases second with
      | nil => cases other
      | cons token' tokens' =>
          obtain ⟨blanks, behind, rfl, blank, starts, taken, after⟩ := one.front
          obtain ⟨blanks', behind', same, blank', starts', taken', after'⟩ := other.front
          have sameAhead : token.word ++ behind = token'.word ++ behind' := by
            rw [← dropWhile_blanks_append blank starts, same,
              dropWhile_blanks_append blank' starts']
          rw [sameAhead] at taken
          have sameKind := Terminal.eq_of_take?_eq_some taken taken'
          rw [sameKind, taken'] at taken
          have sameWord : token.word = token'.word := (Option.some.inj taken).symm
          have sameToken : token = token' := Token.ext sameKind sameWord
          have sameBehind : behind = behind' := by
            rw [sameWord] at sameAhead
            exact List.append_cancel_left sameAhead
          rw [sameToken] at after
          rcases after with ⟨ends, none, -⟩ | ⟨inside, lexed⟩ <;>
            rcases after' with ⟨ends', none', -⟩ | ⟨inside', lexed'⟩
          · rw [sameToken, none, none']
          · exact absurd ends inside'
          · exact absurd ends' inside
          · rw [sameToken, inductionHypothesis lexed (sameBehind ▸ lexed')]

/-! ## Terminals at the front of a lexed text -/

/-- Blanks in front of a terminal are skipped. -/
theorem Terminal.run_blanks_append (kind : Terminal) (position : Nat) {blanks text : List Char}
    (blank : ∀ c ∈ blanks, isBlank c = true)
    (starts : ∀ c, text.head? = some c → isBlank c = false) :
    kind.run { position, ahead := blanks ++ text } =
      match kind.take? text with
      | some word =>
          .matched (ParseTree.ofWord kind word)
            { position := position + blanks.length + (text.take word.length).length
              ahead := text.drop word.length } .none
      | none => .failed (.single (position + blanks.length) kind) := by
  have skipped : (blanks ++ text).takeWhile isBlank = blanks := takeWhile_word_append blank starts
  cases taken : kind.take? text <;>
    simp [Terminal.run, Cursor.skipWhile, Cursor.advance, skipped, taken]

/-- The terminal of the next token takes that token. -/
theorem Lexed.matches_terminal (spare : Nat) {kind : Terminal} {token : Token}
    {tokens : List Token} {cursor : Cursor} (lexed : Lexed (token :: tokens) cursor.ahead)
    (same : token.kind = kind) (inside : kind ≠ .endOfText) :
    ∃ place, (Peg.terminal kind).Matches spare cursor (ParseTree.ofWord kind token.word) place ∧
      Lexed tokens place.ahead ∧ place.ahead.length < cursor.ahead.length := by
  subst same
  obtain ⟨position, text⟩ := cursor
  obtain ⟨blanks, behind, rfl, blank, starts, taken, after⟩ := lexed.front
  rcases after with ⟨ends, -⟩ | ⟨-, rest⟩
  · exact absurd ends inside
  · refine ⟨⟨position + blanks.length + token.word.length, behind⟩, ⟨.none, ?_⟩, rest, ?_⟩
    · rw [Peg.run, Terminal.run_blanks_append _ _ blank starts, taken]
      simp
    · have := List.length_pos_of_ne_nil (token.spelled.ne_nil inside)
      simp only [List.length_append]
      omega

/-- At the end of a lexed text nothing is left behind the last token. -/
theorem Lexed.matches_endOfText (spare : Nat) {token : Token} {tokens : List Token}
    {cursor : Cursor} (lexed : Lexed (token :: tokens) cursor.ahead)
    (ends : token.kind = .endOfText) :
    ∃ place, (Peg.terminal .endOfText).Matches spare cursor [.token .endOfText []] place := by
  obtain ⟨position, text⟩ := cursor
  obtain ⟨blanks, behind, rfl, blank, starts, taken, after⟩ := lexed.front
  rcases after with ⟨-, -, rfl⟩ | ⟨inside, -⟩
  · rw [ends, Token.word_of_endOfText ends] at taken
    refine ⟨⟨position + blanks.length, []⟩, .none, ?_⟩
    rw [Peg.run, Terminal.run_blanks_append _ _ blank starts, Token.word_of_endOfText ends, taken]
    rfl
  · exact absurd ends inside

theorem Peg.Matches.ahead_of_endOfText {spare : Nat} {cursor rest : Cursor}
    {trees : List ParseTree} (matched : (Peg.terminal .endOfText).Matches spare cursor trees rest) :
    rest.ahead = [] := by
  obtain ⟨expected, run⟩ := matched
  rw [Peg.run, Terminal.run] at run
  by_cases empty : (cursor.skipWhile isBlank).ahead = []
  · simp only [Terminal.take?, empty, List.isEmpty_nil, if_true, Result.matched.injEq] at run
    obtain ⟨-, rfl, -⟩ := run
    exact empty
  · simp [Terminal.take?, empty] at run

/-- Another terminal than that of the next token fails. -/
theorem Lexed.fails_terminal {spare : Nat} {kind : Terminal} {token : Token}
    {tokens : List Token} {cursor : Cursor} (lexed : Lexed (token :: tokens) cursor.ahead)
    (different : token.kind ≠ kind) : (Peg.terminal kind).Fails spare cursor := by
  obtain ⟨position, text⟩ := cursor
  obtain ⟨blanks, behind, rfl, blank, starts, taken, -⟩ := lexed.front
  rw [Peg.Fails, Peg.run, Terminal.run_blanks_append _ _ blank starts]
  cases other : kind.take? (token.word ++ behind) with
  | none => exact ⟨_, rfl⟩
  | some word => exact absurd (Terminal.eq_of_take?_eq_some taken other) different

end Reckon.Grammar
