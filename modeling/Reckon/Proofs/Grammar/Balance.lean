import Reckon.Proofs.Grammar.Depth

/-!
# Parentheses that pair with each other

Balanced tokens close every parenthesis that they open and separate nothing outside of their own
parentheses.  Hence balanced tokens in parentheses stand inside or outside of other balanced tokens
as a whole (`Balanced.block_cases`), and they end in front of the first token that closes or
separates what they stand in (`Balanced.append_inj`).  A parenthesis in a lexed text is a token of
its own, so that the text can be taken apart there (`Lexed.split`).
-/

namespace Reckon.Grammar

/-! ## Open parentheses -/

/-- The number of parentheses that are open behind a token.  Outside of all parentheses nothing may
be closed or separated. -/
def levelBehind (level : Nat) : Terminal → Option Nat
  | .openParenthesis => some (level + 1)
  | .closeParenthesis => if level = 0 then none else some (level - 1)
  | .comma => if level = 0 then none else some level
  | _ => some level

/-- The number of parentheses that are open behind some tokens. -/
def levelBehindAll (level : Nat) (tokens : List Token) : Option Nat :=
  tokens.foldlM (fun level token => levelBehind level token.kind) level

def Balanced (tokens : List Token) : Prop :=
  levelBehindAll 0 tokens = some 0

/-- Whether a token may stand behind the inside of parentheses. -/
def Token.Ends (token : Token) : Prop :=
  token.kind = .closeParenthesis ∨ token.kind = .comma

variable {tokens others before behind more inside : List Token} {opening closing token : Token}
  {level later : Nat}

@[simp]
theorem levelBehindAll_nil (level : Nat) : levelBehindAll level [] = some level :=
  rfl

@[simp]
theorem levelBehindAll_cons (level : Nat) (token : Token) (tokens : List Token) :
    levelBehindAll level (token :: tokens) =
      (levelBehind level token.kind).bind fun level => levelBehindAll level tokens :=
  List.foldlM_cons

@[simp]
theorem levelBehindAll_append (level : Nat) (tokens others : List Token) :
    levelBehindAll level (tokens ++ others) =
      (levelBehindAll level tokens).bind fun level => levelBehindAll level others :=
  List.foldlM_append

/-- Further parentheses around do not matter. -/
theorem levelBehind_add {kind : Terminal} (around : Nat)
    (open' : levelBehind level kind = some later) :
    levelBehind (level + around) kind = some (later + around) := by
  cases kind with
  | closeParenthesis | comma =>
      simp only [levelBehind, Option.ite_none_left_eq_some, Option.some.injEq] at open' ⊢
      omega
  | openParenthesis =>
      cases open'
      rw [levelBehind, Nat.add_right_comm]
  | _ =>
      cases open'
      rfl

/-- Levels around a sequence of tokens stay around it. -/
theorem levelBehindAll_add (around : Nat) (open' : levelBehindAll level tokens = some later) :
    levelBehindAll (level + around) tokens = some (later + around) := by
  induction tokens generalizing level with
  | nil => simpa using open'
  | cons token tokens inductionHypothesis =>
      rw [levelBehindAll_cons] at open' ⊢
      obtain ⟨next, first, rest⟩ := Option.bind_eq_some_iff.mp open'
      rw [levelBehind_add around first]
      exact inductionHypothesis rest

theorem Balanced.levelBehindAll_eq (balanced : Balanced tokens) (level : Nat) :
    levelBehindAll level tokens = some level := by
  simpa using levelBehindAll_add level balanced

theorem Balanced.append (balanced : Balanced tokens) (balanced' : Balanced others) :
    Balanced (tokens ++ others) := by
  rw [Balanced, levelBehindAll_append, balanced, Option.bind_some, balanced']

theorem Balanced.flatMap {α : Type} {parts : List α} {tokensOf : α → List Token}
    (balanced : ∀ part ∈ parts, Balanced (tokensOf part)) :
    Balanced (parts.flatMap tokensOf) := by
  induction parts with
  | nil => rfl
  | cons part parts inductionHypothesis =>
      obtain ⟨first, others⟩ := List.forall_mem_cons.mp balanced
      rw [List.flatMap_cons]
      exact first.append (inductionHypothesis others)

theorem Balanced.cons (still : levelBehind 0 token.kind = some 0) (balanced : Balanced tokens) :
    Balanced (token :: tokens) := by
  rw [Balanced, levelBehindAll_cons, still, Option.bind_some, balanced]

/-- The pair that is added closes behind all others. -/
theorem Balanced.parenthesize (openingKind : opening.kind = .openParenthesis)
    (closingKind : closing.kind = .closeParenthesis)
    (still : levelBehindAll 1 tokens = some 1) :
    Balanced (opening :: (tokens ++ [closing])) := by
  simp [Balanced, levelBehind, still, openingKind, closingKind]

/-- Balanced tokens end in front of the first token that ends what they stand in. -/
theorem Balanced.append_inj {one other : Token} (balanced : Balanced tokens)
    (balanced' : Balanced others) (ends : one.Ends) (ends' : other.Ends)
    (same : tokens ++ one :: behind = others ++ other :: more) :
    tokens = others ∧ one = other ∧ behind = more := by
  have outside {tokens rest : List Token} {token : Token} (ends : token.Ends)
      (balanced : Balanced tokens) : ¬Balanced (tokens ++ token :: rest) := by
    rcases ends with kind | kind <;>
      simp [Balanced, balanced.levelBehindAll_eq, levelBehind, kind]
  rcases List.append_eq_append_iff.mp same with ⟨rest, rfl, split⟩ | ⟨rest, rfl, split⟩
  · rcases List.cons_eq_append_iff.mp split with ⟨rfl, split⟩ | ⟨rest, rfl, -⟩
    · cases split
      exact ⟨(List.append_nil _).symm, rfl, rfl⟩
    · exact absurd balanced' (outside ends balanced)
  · rcases List.cons_eq_append_iff.mp split with ⟨rfl, split⟩ | ⟨rest, rfl, -⟩
    · cases split
      exact ⟨List.append_nil _, rfl, rfl⟩
    · exact absurd balanced (outside ends' balanced')

/-- Balanced tokens in parentheses stand inside or behind other balanced tokens. -/
theorem Balanced.block_cases (balanced : Balanced tokens) (balanced' : Balanced inside)
    (openingKind : opening.kind = .openParenthesis)
    (same : tokens ++ more = before ++ opening :: (inside ++ closing :: behind)) :
    (∃ rest, tokens = before ++ opening :: (inside ++ closing :: rest) ∧ behind = rest ++ more) ∨
      ∃ rest, before = tokens ++ rest ∧
        more = rest ++ opening :: (inside ++ closing :: behind) := by
  -- behind the opening parenthesis at least one parenthesis is open up to the closing one
  have unfinished {first second : List Token} (split : inside = first ++ second)
      (whole : Balanced (before ++ opening :: first)) : False := by
    rw [Balanced, levelBehindAll_append] at whole
    obtain ⟨level, -, after⟩ := Option.bind_eq_some_iff.mp whole
    have enough := balanced'
    rw [split, Balanced, levelBehindAll_append] at enough
    obtain ⟨later, some, -⟩ := Option.bind_eq_some_iff.mp enough
    have further := levelBehindAll_add (level + 1) some
    rw [levelBehindAll_cons, openingKind, levelBehind, Option.bind_some, ← Nat.zero_add (level + 1),
      further, Option.some.injEq] at after
    omega
  rcases List.append_eq_append_iff.mp same with ⟨rest, split, split'⟩ | ⟨rest, rfl, split⟩
  · exact Or.inr ⟨rest, split, split'⟩
  · rcases List.cons_eq_append_iff.mp split with ⟨rfl, split⟩ | ⟨rest, rfl, split⟩
    · exact Or.inr ⟨[], by simp, split.symm⟩
    · rw [List.cons_append, List.cons.injEq] at split
      rcases List.append_eq_append_iff.mp split.2 with ⟨later, rfl, split'⟩ | ⟨later, split', -⟩
      · rcases List.cons_eq_append_iff.mp split' with ⟨rfl, -⟩ | ⟨later, rfl, behindEq⟩
        · rw [List.append_nil] at balanced
          exact absurd balanced (unfinished (List.append_nil inside).symm)
        · exact Or.inl ⟨later, rfl, behindEq⟩
      · exact absurd balanced (unfinished split')

/-- Balanced tokens in parentheses that are found where other ones stand are these, or they stand
inside of them. -/
theorem Balanced.parenthesized_cases {first last : Token} (balanced : Balanced tokens)
    (balanced' : Balanced inside) (openingKind : opening.kind = .openParenthesis)
    (closingKind : closing.kind = .closeParenthesis) (lastKind : last.kind = .closeParenthesis)
    (same : first :: (tokens ++ [last]) = before ++ opening :: (inside ++ closing :: behind)) :
    (before = [] ∧ first = opening ∧ tokens = inside ∧ last = closing ∧ behind = []) ∨
      ∃ between rest, before = first :: between ∧
        tokens = between ++ opening :: (inside ++ closing :: rest) ∧ behind = rest ++ [last] := by
  cases before with
  | nil =>
      rw [List.nil_append, List.cons.injEq] at same
      obtain ⟨rfl, rfl, rfl⟩ :=
        balanced.append_inj balanced' (Or.inl lastKind) (Or.inl closingKind) same.2
      exact Or.inl ⟨rfl, same.1, rfl, rfl, rfl⟩
  | cons token between =>
      rw [List.cons_append, List.cons.injEq] at same
      obtain ⟨rfl, same⟩ := same
      rcases balanced.block_cases balanced' openingKind same with
        ⟨rest, within, rfl⟩ | ⟨rest, -, behind⟩
      · exact Or.inr ⟨between, rest, rfl, within, rfl⟩
      · have short := congrArg List.length behind
        simp only [List.length_append, List.length_cons, List.length_nil] at short
        omega

/-! ## Parentheses in texts -/

/-- A parenthesis is only found in the word of its own terminal. -/
theorem Terminal.Spells.eq_of_mem {kind mark : Terminal} {word : List Char} {c : Char}
    (spelled : kind.Spells word) (member : c ∈ word)
    (parenthesis : mark = .openParenthesis ∨ mark = .closeParenthesis)
    (words : mark.words = [[c]]) : kind = mark ∧ word = [c] := by
  have listed : ¬Nesting.IsPlain c ∧
      ∀ word ∈ kind.words, c ∈ word → kind = mark ∧ word = [c] := by
    rcases parenthesis with rfl | rfl
    · obtain rfl : '(' = c := by simpa [Terminal.words] using words
      exact ⟨by simp [Nesting.IsPlain], by cases kind <;> decide⟩
    · obtain rfl : ')' = c := by simpa [Terminal.words] using words
      exact ⟨by simp [Nesting.IsPlain], by cases kind <;> decide⟩
  obtain ⟨notPlain, known⟩ := listed
  cases kind with
  | number | argument | name =>
      have plain := Nesting.isPlain_of_spells spelled (by simp) c member
      exact absurd plain notPlain
  | _ => exact known word spelled member

theorem Terminal.Stops.of_append {kind : Terminal} {text rest : List Char}
    (stops : kind.Stops (text ++ rest)) : kind.Stops text := by
  intro c front
  cases text with
  | nil => simp at front
  | cons d text => exact stops c (by simpa using front)

/-- Where a lexed text has a parenthesis it has a token, and what stands in front of the
parenthesis and behind it is lexed, too. -/
theorem Lexed.split {mark : Terminal} {c : Char} {text rest : List Char}
    (parenthesis : mark = .openParenthesis ∨ mark = .closeParenthesis)
    (words : mark.words = [[c]]) (lexed : Lexed tokens (text ++ c :: rest)) :
    ∃ before middle behind, tokens = before ++ middle :: behind ∧ middle.kind = mark ∧
      middle.word = [c] ∧
      (∀ ending : Token, ending.kind = .endOfText → Lexed (before ++ [ending]) text) ∧
      Lexed behind rest := by
  have notBlank : isBlank c = false := by
    rcases parenthesis with rfl | rfl
    · obtain rfl : '(' = c := by simpa [Terminal.words] using words
      decide
    · obtain rfl : ')' = c := by simpa [Terminal.words] using words
      decide
  have outside {blanks : List Char} (blank : ∀ d ∈ blanks, isBlank d = true) : c ∉ blanks := by
    intro member
    simp [blank c member] at notBlank
  generalize whole : text ++ c :: rest = all at lexed
  induction lexed generalizing text with
  | last _ _ blank => exact absurd (whole ▸ List.mem_append_cons_self) (outside blank)
  | @cons tokens blanks later token inside blank stops lexed inductionHypothesis =>
      rcases List.append_eq_append_iff.mp whole with ⟨found, split, split'⟩ | ⟨text, rfl, split⟩
      · rcases List.cons_eq_append_iff.mp split' with ⟨rfl, laterEq⟩ | ⟨found, rfl, rfl⟩
        · obtain ⟨before, middle, behind, rfl, kind, word, front, lexed⟩ :=
            @inductionHypothesis [] laterEq.symm
          refine ⟨token :: before, middle, behind, rfl, kind, word, fun ending ends => ?_, lexed⟩
          have nothing : token.kind.Stops [] := by simp [Terminal.Stops]
          have shorter := Lexed.cons token inside blank nothing (front ending ends)
          rwa [split, List.append_nil, List.append_nil] at shorter
        · rcases List.mem_append.mp (split ▸ List.mem_append_cons_self) with member | member
          · exact absurd member (outside blank)
          · obtain ⟨kind, word⟩ := token.spelled.eq_of_mem member parenthesis words
            rw [word] at split
            obtain ⟨rfl, -, rfl⟩ :=
              (List.append_cons_inj_of_notMem (outside blank) List.not_mem_nil).mp split
            exact ⟨[], token, tokens, rfl, kind, word, fun ending ends => .last ending ends blank,
              lexed⟩
      · obtain ⟨before, middle, behind, rfl, kind, word, front, lexed⟩ :=
          inductionHypothesis split.symm
        refine ⟨token :: before, middle, behind, rfl, kind, word, fun ending ends => ?_, lexed⟩
        refine .cons token inside blank ?_ (front ending ends)
        rw [split] at stops
        exact stops.of_append

end Reckon.Grammar
