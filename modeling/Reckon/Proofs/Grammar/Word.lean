import Reckon.Grammar.Terminal

/-!
# Words of terminals

Each terminal has a language of words, `Terminal.Spells`, which says nothing about what stands
behind a word.  `Terminal.take?` takes a word off a text only where nothing behind the word
continues it; there it takes the whole word, and no other terminal takes anything
(`Terminal.take?_word_append`, `Terminal.eq_of_take?_eq_some`).
-/

namespace Reckon.Grammar

/-! ## The languages of the terminals -/

/-- The words of a terminal that has only a few of them. -/
def Terminal.words : Terminal → List (List Char)
  | orOperator => [['|', '|']]
  | andOperator => [['&', '&']]
  | bitOrOperator => [['|']]
  | bitXorOperator => [['^']]
  | bitAndOperator => [['&']]
  | equalityOperator => [['=', '='], ['!', '=']]
  | relationOperator => [['<', '='], ['>', '='], ['<'], ['>']]
  | sumOperator => [['+'], ['-']]
  | productOperator => [['*'], ['/'], ['%']]
  | prefixOperator => [['!'], ['~']]
  | openParenthesis => [['(']]
  | comma => [[',']]
  | closeParenthesis => [[')']]
  | endOfText => [[]]
  | number | argument | name => []

/-- Some decimal digits and no other characters. -/
def IsDigits (word : List Char) : Prop :=
  word ≠ [] ∧ ∀ c ∈ word, Text.isDecimalDigit c = true

/-- Whether a word is one of a terminal's words. -/
def Terminal.Spells : Terminal → List Char → Prop
  | number, word =>
      IsDigits word ∨
        ∃ whole fraction, word = whole ++ '.' :: fraction ∧ IsDigits whole ∧ IsDigits fraction
  | argument, word => word ≠ [] ∧ ∀ c ∈ word, isArgumentLetter c = true
  | name, word =>
      ∃ first rest, word = first :: rest ∧ isNameStart first = true ∧
        ∀ c ∈ rest, isNameCharacter c = true
  | kind, word => word ∈ kind.words

/-- Whether a character directly behind a word of a terminal keeps the word from being taken
off there.  The end of the text has nothing behind it. -/
def Terminal.isContinuedBy : Terminal → Char → Bool
  | bitOrOperator, c => c = '|'
  | bitAndOperator, c => c = '&'
  | relationOperator, c => c = '='
  | prefixOperator, c => c = '='
  | number, c => Text.isDecimalDigit c || c = '.'
  | argument, c => isArgumentLetter c
  | name, c => isNameCharacter c
  | endOfText, _ => true
  | _, _ => false

/-- No character in front of the text continues a word of the terminal. -/
def Terminal.Stops (kind : Terminal) (text : List Char) : Prop :=
  ∀ c, text.head? = some c → kind.isContinuedBy c = false

theorem Terminal.Spells.ne_nil {kind : Terminal} {word : List Char}
    (spelled : kind.Spells word) (inside : kind ≠ .endOfText) : word ≠ [] := by
  rintro rfl
  cases kind <;> simp_all [Spells, words, IsDigits]

theorem isDigits_one : IsDigits ['1'] := by
  have digit : Text.isDecimalDigit '1' = true := by decide
  exact ⟨List.cons_ne_nil _ _, by simpa using digit⟩

namespace Terminal

theorem spells_number_one : number.Spells ['1'] :=
  Or.inl isDigits_one

theorem spells_argument_A : argument.Spells ['A'] := by
  have letter : isArgumentLetter 'A' = true := by decide
  exact ⟨List.cons_ne_nil _ _, by simpa using letter⟩

theorem spells_openParenthesis : openParenthesis.Spells ['('] :=
  List.mem_singleton_self _

theorem spells_closeParenthesis : closeParenthesis.Spells [')'] :=
  List.mem_singleton_self _

theorem spells_endOfText : endOfText.Spells [] :=
  List.mem_singleton_self _

end Terminal

/-- Every terminal has words. -/
theorem Terminal.exists_word (kind : Terminal) : ∃ word, kind.Spells word := by
  cases kind with
  | number => exact ⟨_, spells_number_one⟩
  | argument => exact ⟨_, spells_argument_A⟩
  | name => exact ⟨['a'], 'a', [], rfl, by simp [isNameStart], by simp⟩
  | _ => exact ⟨_, List.mem_cons_self⟩

/-! ## Character classes -/

theorem toNat_of_isDecimalDigit {c : Char} (digit : Text.isDecimalDigit c = true) :
    (0x30 ≤ c.toNat ∧ c.toNat < 0x3A) ∨ 0x660 ≤ c.toNat := by
  have zeros : ∀ first ∈ Text.zeroDigits, first = 0x30 ∨ 0x660 ≤ first := by decide
  simp only [Text.isDecimalDigit, Text.decimalDigit?, Option.isSome_map,
    List.find?_isSome, Bool.and_eq_true, decide_eq_true_eq] at digit
  obtain ⟨first, member, lower, upper⟩ := digit
  rcases zeros first member with rfl | beyond
  · exact Or.inl ⟨lower, upper⟩
  · exact Or.inr (Nat.le_trans beyond lower)

theorem toNat_of_isArgumentLetter {c : Char} (letter : isArgumentLetter c = true) :
    0x41 ≤ c.toNat ∧ c.toNat ≤ 0x50 := by
  simpa [isArgumentLetter, Char.le_def, UInt32.le_iff_toNat_le] using letter

theorem toNat_of_isNameStart {c : Char} (start : isNameStart c = true) :
    0x61 ≤ c.toNat ∧ c.toNat ≤ 0x7A := by
  simpa [isNameStart, Char.le_def, UInt32.le_iff_toNat_le] using start

theorem toNat_of_isNameCharacter {c : Char} (character : isNameCharacter c = true) :
    0x30 ≤ c.toNat ∧ c.toNat ≤ 0x7A := by
  simp only [isNameCharacter, Bool.or_eq_true, Bool.and_eq_true, decide_eq_true_eq,
    Char.le_def, UInt32.le_iff_toNat_le] at character
  rcases character with start | digit
  · have := toNat_of_isNameStart start
    omega
  · have : 0x30 ≤ c.toNat ∧ c.toNat ≤ 0x39 := digit
    omega

theorem toNat_of_isBlank {c : Char} (blank : isBlank c = true) : c.toNat ≤ 0x20 := by
  simp only [isBlank, Bool.or_eq_true, decide_eq_true_eq] at blank
  rcases blank with ((rfl | rfl) | rfl) | rfl <;> decide

theorem not_isDecimalDigit_of_toNat {c : Char}
    (outside : (c.toNat < 0x30 ∨ 0x3A ≤ c.toNat) ∧ c.toNat < 0x660) :
    Text.isDecimalDigit c = false := by
  refine Bool.eq_false_iff.mpr fun digit => ?_
  have := toNat_of_isDecimalDigit digit
  omega

theorem not_isArgumentLetter_of_toNat {c : Char} (outside : c.toNat < 0x41 ∨ 0x50 < c.toNat) :
    isArgumentLetter c = false := by
  refine Bool.eq_false_iff.mpr fun letter => ?_
  have := toNat_of_isArgumentLetter letter
  omega

/-! ## Taking a word off a text -/

theorem takeWhile_word_append {holds : Char → Bool} {word text : List Char}
    (inside : ∀ c ∈ word, holds c = true)
    (stops : ∀ c, text.head? = some c → holds c = false) :
    (word ++ text).takeWhile holds = word := by
  rw [List.takeWhile_append_of_pos inside]
  cases text with
  | nil => simp
  | cons c rest => simp [stops c rfl]

theorem takeRun?_word_append {holds : Char → Bool} {word text : List Char} (nonempty : word ≠ [])
    (inside : ∀ c ∈ word, holds c = true)
    (stops : ∀ c, text.head? = some c → holds c = false) :
    takeRun? holds (word ++ text) = some word := by
  simp [takeRun?, takeWhile_word_append inside stops, nonempty]

/-- A run of characters is not empty, and stands at the front. -/
theorem takeRun?_eq_some {holds : Char → Bool} {word text : List Char}
    (taken : takeRun? holds text = some word) :
    word ≠ [] ∧ (∀ c ∈ word, holds c = true) ∧ word <+: text := by
  simp only [takeRun?, List.isEmpty_iff, Option.ite_none_left_eq_some, Option.some.injEq] at taken
  obtain ⟨nonempty, rfl⟩ := taken
  exact ⟨nonempty, List.all_eq_true.mp List.all_takeWhile, List.takeWhile_prefix holds⟩

theorem takeNumber?_digits_append {word text : List Char} (digits : IsDigits word)
    (stops : Terminal.number.Stops text) : takeNumber? (word ++ text) = some word := by
  have behind (c : Char) (front : text.head? = some c) :
      Text.isDecimalDigit c = false ∧ c ≠ '.' := by
    simpa [Terminal.isContinuedBy] using stops c front
  have whole := takeRun?_word_append digits.1 digits.2 fun c front => (behind c front).1
  simp only [takeNumber?, whole, Option.map_some, List.drop_left, Option.some.injEq]
  split
  · exact absurd rfl (behind '.' rfl).2
  · rfl

/-- A decimal number ends with the digits behind its point. -/
theorem takeNumber?_decimal_append {whole fraction text : List Char} (wholeDigits : IsDigits whole)
    (fractionDigits : IsDigits fraction) (stops : Terminal.number.Stops text) :
    takeNumber? (whole ++ '.' :: fraction ++ text) = some (whole ++ '.' :: fraction) := by
  have point (c : Char) (front : ('.' :: (fraction ++ text)).head? = some c) :
      Text.isDecimalDigit c = false := by
    obtain rfl : '.' = c := by simpa using front
    decide
  have behind (c : Char) (front : text.head? = some c) : Text.isDecimalDigit c = false := by
    have := stops c front
    simp only [Terminal.isContinuedBy, Bool.or_eq_false_iff] at this
    exact this.1
  have first := takeRun?_word_append wholeDigits.1 wholeDigits.2 point
  have second := takeRun?_word_append fractionDigits.1 fractionDigits.2 behind
  rw [List.append_assoc, List.cons_append]
  simp [takeNumber?, first, second]

/-- A word that nothing behind it continues is taken off as a whole. -/
theorem Terminal.take?_word_append {kind : Terminal} {word text : List Char}
    (spelled : kind.Spells word) (stops : kind.Stops text) :
    kind.take? (word ++ text) = some word := by
  cases kind with
  | number =>
      rcases spelled with digits | ⟨whole, fraction, rfl, wholeDigits, fractionDigits⟩
      · exact takeNumber?_digits_append digits stops
      · exact takeNumber?_decimal_append wholeDigits fractionDigits stops
  | argument => exact takeRun?_word_append spelled.1 spelled.2 stops
  | name =>
      obtain ⟨first, rest, rfl, start, inside⟩ := spelled
      simp [take?, takeName?, start, takeWhile_word_append inside stops]
  | endOfText =>
      obtain rfl : word = [] := by simpa [Spells, words] using spelled
      cases text with
      | nil => rfl
      | cons c rest => simpa [isContinuedBy] using stops c rfl
  | bitOrOperator | bitAndOperator =>
      obtain rfl := List.mem_singleton.mp spelled
      have different (c : Char) (front : text.head? = some c) := stops c front
      cases text <;> simp_all [take?, takeOneUnless?, isContinuedBy]
  | prefixOperator =>
      have different (c : Char) (front : text.head? = some c) := stops c front
      simp only [Spells, words, List.mem_cons, List.not_mem_nil, or_false] at spelled
      rcases spelled with rfl | rfl <;> cases text <;>
        simp_all [take?, takeOneUnless?, isContinuedBy]
  | relationOperator =>
      have different (c : Char) (front : text.head? = some c) := stops c front
      simp only [Spells, words, List.mem_cons, List.not_mem_nil, or_false] at spelled
      rcases spelled with rfl | rfl | rfl | rfl <;> cases text <;>
        simp_all [take?, takePair?, takeOne?, isContinuedBy]
  | _ =>
      simp only [Spells, words, List.mem_cons, List.not_mem_nil, or_false] at spelled
      rcases spelled with rfl | rfl | rfl <;> simp [take?, takePair?, takeOne?]

theorem takeOne?_eq_some {allowed word text : List Char}
    (taken : takeOne? allowed text = some word) :
    ∃ c rest, text = c :: rest ∧ word = [c] ∧ c ∈ allowed := by
  cases text with
  | nil => simp [takeOne?] at taken
  | cons c rest =>
      simp only [takeOne?, Option.ite_none_right_eq_some, Option.some.injEq] at taken
      exact ⟨c, rest, rfl, taken.2.symm, taken.1⟩

theorem takeOneUnless?_eq_some {allowed word text : List Char} {follower : Char}
    (taken : takeOneUnless? allowed follower text = some word) :
    ∃ c rest, text = c :: rest ∧ word = [c] ∧ c ∈ allowed ∧ rest.head? ≠ some follower := by
  cases text with
  | nil => simp [takeOneUnless?] at taken
  | cons c rest =>
      simp only [takeOneUnless?, Option.ite_none_right_eq_some, Option.some.injEq] at taken
      exact ⟨c, rest, rfl, taken.2.symm, taken.1.1, taken.1.2⟩

theorem takePair?_eq_some {allowed : List (Char × Char)} {word text : List Char}
    (taken : takePair? allowed text = some word) :
    ∃ c d rest, text = c :: d :: rest ∧ word = [c, d] ∧ (c, d) ∈ allowed := by
  match text with
  | [] => simp [takePair?] at taken
  | [c] => simp [takePair?] at taken
  | c :: d :: rest =>
      simp only [takePair?, Option.ite_none_right_eq_some, Option.some.injEq] at taken
      exact ⟨c, d, rest, rfl, taken.2.symm, taken.1⟩

/-- What is taken for a number spells one. -/
theorem takeNumber?_eq_some {word text : List Char} (taken : takeNumber? text = some word) :
    Terminal.number.Spells word ∧ word <+: text := by
  simp only [takeNumber?, Option.map_eq_some_iff] at taken
  obtain ⟨whole, first, chosen⟩ := taken
  obtain ⟨nonempty, inside, rest, rfl⟩ := takeRun?_eq_some first
  have digits : IsDigits whole := ⟨nonempty, inside⟩
  rw [List.drop_left] at chosen
  split at chosen
  · next behind =>
      split at chosen
      · next fraction second =>
          obtain ⟨fractionNonempty, fractionInside, tail, rfl⟩ := takeRun?_eq_some second
          subst chosen
          refine ⟨Or.inr ⟨whole, fraction, rfl, digits, fractionNonempty, fractionInside⟩, tail, ?_⟩
          simp
      · subst chosen
        exact ⟨Or.inl digits, List.prefix_append _ _⟩
  · subst chosen
    exact ⟨Or.inl digits, List.prefix_append _ _⟩

theorem takeName?_eq_some {word text : List Char} (taken : takeName? text = some word) :
    Terminal.name.Spells word ∧ word <+: text := by
  cases text with
  | nil => simp [takeName?] at taken
  | cons c rest =>
      simp only [takeName?, Option.ite_none_right_eq_some, Option.some.injEq] at taken
      obtain ⟨start, rfl⟩ := taken
      refine ⟨⟨c, _, rfl, start, List.all_eq_true.mp List.all_takeWhile⟩, ?_⟩
      exact List.cons_prefix_cons.mpr ⟨rfl, List.takeWhile_prefix _⟩

/-- In front of an equals sign no prefix is taken off. -/
theorem Terminal.head?_ne_of_take?_prefixOperator {word text : List Char}
    (taken : prefixOperator.take? (word ++ text) = some word) : text.head? ≠ some '=' := by
  obtain ⟨c, rest, split, rfl, -, different⟩ := takeOneUnless?_eq_some taken
  obtain ⟨-, rfl⟩ := List.cons.inj split
  exact different

/-- What a terminal takes off a text is one of its words. -/
theorem Terminal.spells_of_take?_eq_some {kind : Terminal} {word text : List Char}
    (taken : kind.take? text = some word) : kind.Spells word ∧ word <+: text := by
  cases kind with
  | number => exact takeNumber?_eq_some taken
  | argument =>
      obtain ⟨nonempty, inside, front⟩ := takeRun?_eq_some taken
      exact ⟨⟨nonempty, inside⟩, front⟩
  | name => exact takeName?_eq_some taken
  | endOfText =>
      simp only [take?, Option.ite_none_right_eq_some, Option.some.injEq] at taken
      obtain ⟨-, rfl⟩ := taken
      exact ⟨List.mem_singleton.mpr rfl, List.nil_prefix⟩
  | bitOrOperator | bitAndOperator | prefixOperator =>
      obtain ⟨c, rest, rfl, rfl, member, -⟩ := takeOneUnless?_eq_some taken
      simpa [Spells, words] using member
  | relationOperator =>
      rcases Option.or_eq_some_iff.mp taken with pair | ⟨-, one⟩
      · obtain ⟨c, d, rest, rfl, rfl, member⟩ := takePair?_eq_some pair
        simp only [List.mem_cons, Prod.mk.injEq, List.not_mem_nil, or_false] at member
        rcases member with ⟨rfl, rfl⟩ | ⟨rfl, rfl⟩ <;> simp [Spells, words]
      · obtain ⟨c, rest, rfl, rfl, member⟩ := takeOne?_eq_some one
        simp only [List.mem_cons, List.not_mem_nil, or_false] at member
        rcases member with rfl | rfl <;> simp [Spells, words]
  | orOperator | andOperator | equalityOperator =>
      obtain ⟨c, d, rest, rfl, rfl, member⟩ := takePair?_eq_some taken
      simpa [Spells, words] using member
  | _ =>
      obtain ⟨c, rest, rfl, rfl, member⟩ := takeOne?_eq_some taken
      simpa [Spells, words] using member

/-! ## Which terminal a text starts with -/

/-- The only terminal that may take a word off a text, told by its first two characters. -/
def Terminal.ahead? : List Char → Option Terminal
  | [] => some endOfText
  | c :: rest =>
      if c = '|' then some (if rest.head? = some '|' then orOperator else bitOrOperator)
      else if c = '&' then some (if rest.head? = some '&' then andOperator else bitAndOperator)
      else if c = '!' then some (if rest.head? = some '=' then equalityOperator else prefixOperator)
      else if c = '=' then some equalityOperator
      else if c = '~' then some prefixOperator
      else if c = '^' then some bitXorOperator
      else if c ∈ ['<', '>'] then some relationOperator
      else if c ∈ ['+', '-'] then some sumOperator
      else if c ∈ ['*', '/', '%'] then some productOperator
      else if c = '(' then some openParenthesis
      else if c = ',' then some comma
      else if c = ')' then some closeParenthesis
      else if Text.isDecimalDigit c then some number
      else if isArgumentLetter c then some argument
      else if isNameStart c then some name
      else none

theorem ne_of_toNat {c d : Char} (different : c.toNat ≠ d.toNat) : c ≠ d :=
  fun same => different (congrArg Char.toNat same)

theorem Terminal.ahead?_of_isDecimalDigit {c : Char} {rest : List Char}
    (digit : Text.isDecimalDigit c = true) : ahead? (c :: rest) = some number := by
  have range := toNat_of_isDecimalDigit digit
  have different (d : Char) (other : d.toNat < 0x30 ∨ (0x3A ≤ d.toNat ∧ d.toNat < 0x660)) :
      c ≠ d :=
    ne_of_toNat (by omega)
  simp [ahead?, digit, different]

theorem Terminal.ahead?_of_isArgumentLetter {c : Char} {rest : List Char}
    (letter : isArgumentLetter c = true) : ahead? (c :: rest) = some argument := by
  have range := toNat_of_isArgumentLetter letter
  have different (d : Char) (other : d.toNat < 0x41 ∨ 0x50 < d.toNat) : c ≠ d :=
    ne_of_toNat (by omega)
  have noDigit : Text.isDecimalDigit c = false := not_isDecimalDigit_of_toNat (by omega)
  simp [ahead?, letter, noDigit, different]

theorem Terminal.ahead?_of_isNameStart {c : Char} {rest : List Char}
    (start : isNameStart c = true) : ahead? (c :: rest) = some name := by
  have range := toNat_of_isNameStart start
  have different (d : Char) (other : d.toNat < 0x61 ∨ 0x7A < d.toNat) : c ≠ d :=
    ne_of_toNat (by omega)
  have noDigit : Text.isDecimalDigit c = false := not_isDecimalDigit_of_toNat (by omega)
  have noLetter : isArgumentLetter c = false := not_isArgumentLetter_of_toNat (by omega)
  simp [ahead?, start, noDigit, noLetter, different]

/-- The first characters tell which terminal a word is of. -/
theorem Terminal.ahead?_of_take?_eq_some {kind : Terminal} {word text : List Char}
    (taken : kind.take? text = some word) : ahead? text = some kind := by
  cases kind with
  | number =>
      obtain ⟨whole, first, -⟩ := Option.map_eq_some_iff.mp taken
      obtain ⟨nonempty, inside, rest, rfl⟩ := takeRun?_eq_some first
      obtain ⟨c, tail, rfl⟩ := List.exists_cons_of_ne_nil nonempty
      exact ahead?_of_isDecimalDigit (inside c List.mem_cons_self)
  | argument =>
      obtain ⟨nonempty, inside, rest, rfl⟩ := takeRun?_eq_some taken
      obtain ⟨c, tail, rfl⟩ := List.exists_cons_of_ne_nil nonempty
      exact ahead?_of_isArgumentLetter (inside c List.mem_cons_self)
  | name =>
      obtain ⟨⟨c, tail, rfl, start, -⟩, rest, rfl⟩ := takeName?_eq_some taken
      exact ahead?_of_isNameStart start
  | endOfText =>
      simp only [take?, Option.ite_none_right_eq_some, List.isEmpty_iff] at taken
      rw [taken.1]
      rfl
  | bitOrOperator | bitAndOperator | prefixOperator =>
      obtain ⟨c, rest, rfl, -, member, different⟩ := takeOneUnless?_eq_some taken
      simp only [List.mem_cons, List.not_mem_nil, or_false] at member
      rcases member with rfl | rfl <;> simp [ahead?, different]
  | relationOperator =>
      rcases Option.or_eq_some_iff.mp taken with pair | ⟨-, one⟩
      · obtain ⟨c, d, rest, rfl, -, member⟩ := takePair?_eq_some pair
        simp only [List.mem_cons, Prod.mk.injEq, List.not_mem_nil, or_false] at member
        rcases member with ⟨rfl, -⟩ | ⟨rfl, -⟩ <;> rfl
      · obtain ⟨c, rest, rfl, -, member⟩ := takeOne?_eq_some one
        simp only [List.mem_cons, List.not_mem_nil, or_false] at member
        rcases member with rfl | rfl <;> rfl
  | orOperator | andOperator =>
      obtain ⟨c, d, rest, rfl, -, member⟩ := takePair?_eq_some taken
      obtain ⟨rfl, rfl⟩ := Prod.mk.inj (List.mem_singleton.mp member)
      rfl
  | equalityOperator =>
      obtain ⟨c, d, rest, rfl, -, member⟩ := takePair?_eq_some taken
      simp only [List.mem_cons, Prod.mk.injEq, List.not_mem_nil, or_false] at member
      rcases member with ⟨rfl, rfl⟩ | ⟨rfl, rfl⟩ <;> rfl
  | _ =>
      obtain ⟨c, rest, rfl, -, member⟩ := takeOne?_eq_some taken
      simp only [List.mem_cons, List.not_mem_nil, or_false] at member
      rcases member with rfl | rfl | rfl <;> rfl

/-- At most one terminal takes a word off a text. -/
theorem Terminal.eq_of_take?_eq_some {first second : Terminal} {text word other : List Char}
    (firstTaken : first.take? text = some word) (secondTaken : second.take? text = some other) :
    first = second :=
  Option.some.inj <|
    (ahead?_of_take?_eq_some firstTaken).symm.trans (ahead?_of_take?_eq_some secondTaken)

/-- A word of another terminal than the end of the text does not start with a blank. -/
theorem Terminal.Spells.head_not_blank {kind : Terminal} {c : Char} {word : List Char}
    (spelled : kind.Spells (c :: word)) : isBlank c = false := by
  refine Bool.eq_false_iff.mpr fun blank => ?_
  have range := toNat_of_isBlank blank
  have unstarted (d : Char) (above : 0x20 < d.toNat) : c ≠ d := ne_of_toNat (by omega)
  cases kind with
  | number =>
      have digit : Text.isDecimalDigit c = true := by
        rcases spelled with digits | ⟨whole, fraction, split, digits, -⟩
        · exact digits.2 c List.mem_cons_self
        · obtain ⟨d, tail, rfl⟩ := List.exists_cons_of_ne_nil digits.1
          obtain ⟨rfl, -⟩ := List.cons.inj split
          exact digits.2 c List.mem_cons_self
      have := toNat_of_isDecimalDigit digit
      omega
  | argument =>
      have := toNat_of_isArgumentLetter (spelled.2 c List.mem_cons_self)
      omega
  | name =>
      obtain ⟨first, rest, split, start, -⟩ := spelled
      obtain ⟨rfl, -⟩ := List.cons.inj split
      have := toNat_of_isNameStart start
      omega
  | _ => simp [Spells, words, unstarted] at spelled

/-- The terminal of a word is told by the first two characters of the word. -/
theorem Terminal.Spells.ahead?_eq {kind : Terminal} {word : List Char}
    (spelled : kind.Spells word) : ahead? word = some kind := by
  have nothing : kind.Stops [] := by simp [Stops]
  have taken := take?_word_append spelled nothing
  rw [List.append_nil] at taken
  exact ahead?_of_take?_eq_some taken

/-! ## What may stand directly behind a word -/

/-- Whether operands start with words of this terminal. -/
def Terminal.opens : Terminal → Bool
  | prefixOperator | number | argument | name | openParenthesis => true
  | _ => false

/-- Whether operands end with words of this terminal. -/
def Terminal.closes : Terminal → Bool
  | number | argument | closeParenthesis => true
  | _ => false

/-- Whether words of this terminal stand between two operands. -/
def Terminal.joins : Terminal → Bool
  | orOperator | andOperator | bitOrOperator | bitXorOperator | bitAndOperator
  | equalityOperator | relationOperator | sumOperator | productOperator | comma => true
  | _ => false

/-- Whether a word of the second terminal may follow a word of the first one in a formula. -/
def Terminal.mayPrecede (first second : Terminal) : Bool :=
  (first.closes && (second.joins || second == closeParenthesis || second == endOfText)) ||
    ((first.joins || first == prefixOperator || first == openParenthesis) && second.opens) ||
    (first == name && second == openParenthesis)

theorem Terminal.not_isContinuedBy_blank {kind : Terminal} {c : Char}
    (inside : kind ≠ .endOfText) (blank : isBlank c = true) : kind.isContinuedBy c = false := by
  have range := toNat_of_isBlank blank
  have different (d : Char) (above : 0x20 < d.toNat) : c ≠ d := ne_of_toNat (by omega)
  have noDigit : Text.isDecimalDigit c = false := not_isDecimalDigit_of_toNat (by omega)
  have noLetter : isArgumentLetter c = false := not_isArgumentLetter_of_toNat (by omega)
  have noName : isNameCharacter c = false := by
    refine Bool.eq_false_iff.mpr fun character => ?_
    have := toNat_of_isNameCharacter character
    omega
  cases kind <;> simp_all [isContinuedBy]

theorem Terminal.head_of_opens {kind : Terminal} {c : Char} {word : List Char}
    (spelled : kind.Spells (c :: word)) (opens : kind.opens = true) :
    c ≠ '|' ∧ c ≠ '&' ∧ c ≠ '=' := by
  have start := spelled.ahead?_eq
  refine ⟨?_, ?_, ?_⟩ <;> rintro rfl <;> obtain rfl := Option.some.inj start
  · split at opens <;> cases opens
  · split at opens <;> cases opens
  · cases opens

/-- A word that may follow another one does not continue it. -/
theorem Terminal.not_isContinuedBy_of_mayPrecede {first second : Terminal} {c : Char}
    {word : List Char} (allowed : first.mayPrecede second = true)
    (spelled : second.Spells (c :: word)) : first.isContinuedBy c = false := by
  simp only [mayPrecede, Bool.or_eq_true, Bool.and_eq_true, beq_iff_eq] at allowed
  have start := spelled.ahead?_eq
  rcases allowed with (⟨closes, behind⟩ | ⟨before, opens⟩) | ⟨rfl, rfl⟩
  · -- behind an operand there is neither a digit nor a point nor a letter
    have noDigit : Text.isDecimalDigit c = false := by
      refine Bool.eq_false_iff.mpr fun digit => ?_
      rw [ahead?_of_isDecimalDigit digit] at start
      cases start
      simp [joins] at behind
    have noLetter : isArgumentLetter c = false := by
      refine Bool.eq_false_iff.mpr fun letter => ?_
      rw [ahead?_of_isArgumentLetter letter] at start
      cases start
      simp [joins] at behind
    have noPoint : c ≠ '.' := by
      rintro rfl
      have : ahead? ('.' :: word) = none := rfl
      simp [this] at start
    cases first <;> simp_all [Terminal.closes, isContinuedBy]
  · obtain ⟨noBar, noAnd, noEqual⟩ := head_of_opens spelled opens
    cases first <;> simp_all [joins, isContinuedBy]
  · obtain ⟨rfl, -⟩ : c = '(' ∧ word = [] := by simpa [Spells, words] using spelled
    decide

end Reckon.Grammar
