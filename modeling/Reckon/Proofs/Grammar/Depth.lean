import Reckon.Grammar.Nesting
import Reckon.Proofs.Grammar.Token

/-!
# Nesting of tokens

The characters of a word and the blanks around it change the open levels like one token does,
`Nesting.behind`: a prefix and an opening parenthesis open a level, a closing parenthesis
closes its own one with the prefixes in it, and operators and commas settle the pending
prefixes.  The most levels that are open behind any character of a lexed text are the most that
are open behind any of its tokens (`peak_eq_summit`).
-/

namespace Reckon.Grammar.Nesting

def behind (nesting : Nesting) : Terminal → Nesting
  | .prefixOperator => { nesting with pending := nesting.pending + 1 }
  | .openParenthesis => { pending := 0, around := nesting.pending :: nesting.around }
  | .closeParenthesis =>
      match nesting.around with
      | [] => nesting
      | pending :: around => { pending, around }
  | .number | .argument | .name | .endOfText => nesting
  | _ => { nesting with pending := 0 }

/-- The levels that are open behind some tokens. -/
def behindAll (nesting : Nesting) (tokens : List Token) : Nesting :=
  tokens.foldl (fun nesting token => nesting.behind token.kind) nesting

/-- The most levels that are open in front of a text or behind any of its characters. -/
def peak (nesting : Nesting) (text : List Char) : Nat :=
  max nesting.level (nesting.deepest text)

/-- The most levels that are open in front of some tokens or behind any of them. -/
def summit (nesting : Nesting) : List Token → Nat
  | [] => nesting.level
  | token :: tokens => max nesting.level ((nesting.behind token.kind).summit tokens)

theorem peak_nil (nesting : Nesting) : nesting.peak [] = nesting.level := by
  simp [peak, deepest]

theorem peak_cons (nesting : Nesting) (c : Char) (text : List Char) :
    nesting.peak (c :: text) = max nesting.level ((nesting.step c text.head?).peak text) :=
  rfl

theorem level_le_peak (nesting : Nesting) (text : List Char) :
    nesting.level ≤ nesting.peak text :=
  Nat.le_max_left _ _

theorem level_le_summit (nesting : Nesting) (tokens : List Token) :
    nesting.level ≤ nesting.summit tokens := by
  cases tokens with
  | nil => exact Nat.le_refl _
  | cons token tokens => exact Nat.le_max_left _ _

/-- The summit of a sequence is that of its parts, the second one from where the first has led. -/
theorem summit_append (nesting : Nesting) (first second : List Token) :
    nesting.summit (first ++ second) =
      max (nesting.summit first) ((nesting.behindAll first).summit second) := by
  induction first generalizing nesting with
  | nil =>
      have := level_le_summit nesting second
      simp only [List.nil_append, summit, behindAll, List.foldl_nil]
      omega
  | cons token first inductionHypothesis =>
      rw [List.cons_append, summit, inductionHypothesis, summit, Nat.max_assoc]
      rfl

theorem behindAll_append (nesting : Nesting) (first second : List Token) :
    nesting.behindAll (first ++ second) = (nesting.behindAll first).behindAll second :=
  List.foldl_append

theorem level_behindAll_le_summit (nesting : Nesting) (tokens : List Token) :
    (nesting.behindAll tokens).level ≤ nesting.summit tokens := by
  have whole := summit_append nesting tokens []
  rw [List.append_nil, summit.eq_1] at whole
  omega

theorem level_behind_prefixOperator (nesting : Nesting) :
    (nesting.behind .prefixOperator).level = nesting.level + 1 := by
  simp only [level, behind]
  omega

theorem level_behind_openParenthesis (nesting : Nesting) :
    (nesting.behind .openParenthesis).level = nesting.level + 1 := by
  simp only [level, behind, List.length_cons, List.foldr_cons]
  omega

/-! ## Characters that leave the nesting alone -/

/-- Neither a parenthesis nor a part of an operator or separator. -/
def IsPlain (c : Char) : Prop :=
  c ∉ ['!', '~', '(', ')', '+', '-', '*', '/', '%', '<', '>', '=', '&', '|', '^', ',']

/-- Characters of words other than operators and parentheses do not move the nesting. -/
theorem step_of_isPlain (nesting : Nesting) {c : Char} (plain : IsPlain c)
    (next : Option Char) : nesting.step c next = nesting := by
  simp only [IsPlain, List.mem_cons, List.not_mem_nil, or_false, not_or] at plain
  simp [step, plain]

theorem isPlain_of_toNat {c : Char}
    (outside : c.toNat ≤ 0x20 ∨ c.toNat = 0x2E ∨ (0x30 ≤ c.toNat ∧ c.toNat ≤ 0x39) ∨
      (0x41 ≤ c.toNat ∧ c.toNat ≤ 0x50) ∨ (0x61 ≤ c.toNat ∧ c.toNat ≤ 0x7A) ∨
      0x660 ≤ c.toNat) : IsPlain c := by
  intro listed
  simp only [List.mem_cons, List.not_mem_nil, or_false] at listed
  rcases listed with rfl | rfl | rfl | rfl | rfl | rfl | rfl | rfl | rfl | rfl | rfl | rfl |
    rfl | rfl | rfl | rfl <;> revert outside <;> decide

theorem isPlain_of_isBlank {c : Char} (blank : isBlank c = true) : IsPlain c :=
  isPlain_of_toNat (Or.inl (toNat_of_isBlank blank))

theorem isPlain_of_isDecimalDigit {c : Char} (digit : Text.isDecimalDigit c = true) :
    IsPlain c := by
  have := toNat_of_isDecimalDigit digit
  exact isPlain_of_toNat (by omega)

theorem isPlain_of_isArgumentLetter {c : Char} (letter : isArgumentLetter c = true) :
    IsPlain c := by
  have := toNat_of_isArgumentLetter letter
  exact isPlain_of_toNat (by omega)

theorem isPlain_of_isNameStart {c : Char} (start : isNameStart c = true) : IsPlain c := by
  have := toNat_of_isNameStart start
  exact isPlain_of_toNat (by omega)

theorem isPlain_of_isNameCharacter {c : Char} (character : isNameCharacter c = true) :
    IsPlain c := by
  simp only [isNameCharacter, Bool.or_eq_true, Bool.and_eq_true, decide_eq_true_eq,
    Char.le_def, UInt32.le_iff_toNat_le] at character
  rcases character with start | digit
  · exact isPlain_of_isNameStart start
  · have : 0x30 ≤ c.toNat ∧ c.toNat ≤ 0x39 := digit
    exact isPlain_of_toNat (by omega)

/-- A word without operators rises nowhere. -/
theorem peak_plain_append (nesting : Nesting) {word : List Char} (text : List Char)
    (plain : ∀ c ∈ word, IsPlain c) : nesting.peak (word ++ text) = nesting.peak text := by
  induction word with
  | nil => rfl
  | cons c word inductionHypothesis =>
      obtain ⟨first, others⟩ := List.forall_mem_cons.mp plain
      have := level_le_peak nesting text
      rw [List.cons_append, peak_cons, step_of_isPlain nesting first, inductionHypothesis others]
      omega

/-! ## Words -/

/-- The terminals whose words leave the nesting alone have plain words. -/
theorem isPlain_of_spells {kind : Terminal} {word : List Char} (spelled : kind.Spells word)
    (still : kind ∈ [Terminal.number, .argument, .name]) : ∀ c ∈ word, IsPlain c := by
  have digits {word : List Char} (digits : IsDigits word) : ∀ c ∈ word, IsPlain c :=
    fun c member => isPlain_of_isDecimalDigit (digits.2 c member)
  simp only [List.mem_cons, List.not_mem_nil, or_false] at still
  rcases still with rfl | rfl | rfl
  · rcases spelled with whole | ⟨whole, fraction, rfl, wholeDigits, fractionDigits⟩
    · exact digits whole
    · have point : IsPlain '.' := isPlain_of_toNat (by decide)
      exact List.forall_mem_append.mpr
        ⟨digits wholeDigits, List.forall_mem_cons.mpr ⟨point, digits fractionDigits⟩⟩
  · exact fun c member => isPlain_of_isArgumentLetter (spelled.2 c member)
  · obtain ⟨first, rest, rfl, start, characters⟩ := spelled
    exact List.forall_mem_cons.mpr
      ⟨isPlain_of_isNameStart start,
        fun c member => isPlain_of_isNameCharacter (characters c member)⟩

def settled (nesting : Nesting) : Nesting :=
  { nesting with pending := 0 }

/-- A closing parenthesis gets back to what its opening one has found. -/
theorem behind_closeParenthesis {nesting inside : Nesting}
    (around : inside.around = nesting.pending :: nesting.around) :
    inside.behind .closeParenthesis = nesting := by
  simp only [behind, around]

theorem behind_of_joins (nesting : Nesting) {kind : Terminal} (joins : kind.joins = true) :
    nesting.behind kind = nesting.settled := by
  cases kind <;> first | rfl | cases joins

/-- A character that settles the pending prefixes, whatever follows it. -/
def IsSettling (c : Char) : Prop :=
  c ∈ ['+', '-', '*', '/', '%', '<', '>', '=', '&', '|', '^', ',']

theorem step_of_isSettling (nesting : Nesting) {c : Char} (settling : IsSettling c)
    (next : Option Char) : nesting.step c next = nesting.settled := by
  simp only [IsSettling, List.mem_cons, List.not_mem_nil, or_false] at settling
  rcases settling with rfl | rfl | rfl | rfl | rfl | rfl | rfl | rfl | rfl | rfl | rfl | rfl <;>
    simp [step, settled]

/-- An operator lets the prefixes go, however many characters it has. -/
theorem peak_settling_append (nesting : Nesting) {word : List Char} (text : List Char)
    (nonempty : word ≠ []) (settling : ∀ c ∈ word, IsSettling c) :
    nesting.peak (word ++ text) = max nesting.level (nesting.settled.peak text) := by
  induction word generalizing nesting with
  | nil => exact absurd rfl nonempty
  | cons c word inductionHypothesis =>
      obtain ⟨first, others⟩ := List.forall_mem_cons.mp settling
      rw [List.cons_append, peak_cons, step_of_isSettling nesting first]
      cases word with
      | nil => rfl
      | cons d word =>
          have := level_le_peak nesting.settled text
          have again : nesting.settled.settled = nesting.settled := rfl
          rw [inductionHypothesis nesting.settled (by simp) others, again]
          omega

/-- A word changes the nesting like its token.  A mark in front of an equals sign counts as no
prefix. -/
theorem peak_word_append (nesting : Nesting) {kind : Terminal} {word text : List Char}
    (spelled : kind.Spells word) (next : kind = .prefixOperator → text.head? ≠ some '=') :
    nesting.peak (word ++ text) = max nesting.level ((nesting.behind kind).peak text) := by
  have above : max nesting.level (nesting.peak text) = nesting.peak text :=
    Nat.max_eq_right (level_le_peak nesting text)
  have settles {kind : Terminal} (listed : word ∈ kind.words)
      (settling : ∀ word ∈ kind.words, word ≠ [] ∧ ∀ c ∈ word, IsSettling c) :
      nesting.peak (word ++ text) = max nesting.level (nesting.settled.peak text) :=
    peak_settling_append nesting text (settling word listed).1 (settling word listed).2
  have single {c : Char} (listed : word ∈ [[c]]) : word = [c] := List.mem_singleton.mp listed
  cases kind with
  | number | argument | name =>
      rw [peak_plain_append nesting text (isPlain_of_spells spelled (by simp))]
      exact above.symm
  | orOperator | andOperator | bitOrOperator | bitXorOperator | bitAndOperator
  | relationOperator | sumOperator | productOperator | comma =>
      exact settles spelled (by simp [Terminal.words, IsSettling])
  | equalityOperator =>
      have words : word = ['=', '='] ∨ word = ['!', '='] := by
        simpa [Terminal.Spells, Terminal.words] using spelled
      rcases words with rfl | rfl
      · exact peak_settling_append nesting text (by simp) (by simp [IsSettling])
      · -- in front of an equals sign the mark is no prefix
        have first : nesting.step '!' (some '=') = nesting.settled := by simp [step, settled]
        have equals : IsSettling '=' := by simp [IsSettling]
        have second : nesting.settled.peak ('=' :: text) = nesting.settled.peak text := by
          rw [peak_cons, step_of_isSettling _ equals]
          exact Nat.max_eq_right (level_le_peak nesting.settled text)
        rw [List.cons_append, peak_cons, List.cons_append, List.head?_cons, first,
          List.nil_append, second]
        rfl
  | prefixOperator =>
      have next := next rfl
      have words : word = ['!'] ∨ word = ['~'] := by
        simpa [Terminal.Spells, Terminal.words] using spelled
      rcases words with rfl | rfl <;> simp [peak_cons, step, behind, next]
  | openParenthesis =>
      have opens : nesting.step '(' text.head? = nesting.behind .openParenthesis := rfl
      rw [single spelled, List.cons_append, List.nil_append, peak_cons, opens]
  | closeParenthesis =>
      have closes : nesting.step ')' text.head? = nesting.behind .closeParenthesis := rfl
      rw [single spelled, List.cons_append, List.nil_append, peak_cons, closes]
  | endOfText =>
      have empty : word = [] := List.mem_singleton.mp spelled
      rw [empty]
      exact above.symm

/-- The characters of a lexed text open as many levels as its tokens. -/
theorem peak_eq_summit {tokens : List Token} {text : List Char} (lexed : Lexed tokens text)
    (nesting : Nesting) : nesting.peak text = nesting.summit tokens := by
  induction lexed generalizing nesting with
  | @last blanks token ends blank =>
      have plain : ∀ c ∈ blanks, IsPlain c := fun c member => isPlain_of_isBlank (blank c member)
      have still := peak_plain_append nesting [] plain
      rw [List.append_nil, peak_nil] at still
      rw [still, summit, summit, ends, behind, Nat.max_self]
  | @cons tokens blanks text token inside blank stops _ inductionHypothesis =>
      have plain : ∀ c ∈ blanks, IsPlain c := fun c member => isPlain_of_isBlank (blank c member)
      have next (kind : token.kind = .prefixOperator) : text.head? ≠ some '=' := by
        intro front
        simpa [kind, Terminal.isContinuedBy] using stops '=' front
      rw [List.append_assoc, peak_plain_append nesting _ plain,
        peak_word_append nesting token.spelled next, inductionHypothesis, summit]

/-- The nesting depth of a lexed text is told by its tokens. -/
theorem depth_eq_summit {tokens : List Token} {text : List Char} (lexed : Lexed tokens text) :
    depth text = outermost.summit tokens := by
  rw [← peak_eq_summit lexed outermost, peak]
  exact (Nat.max_eq_right (Nat.zero_le _)).symm

end Reckon.Grammar.Nesting
