import Reckon.Proofs.Text.Numeral
import Reckon.Json.Reader

/-!
# Writing JSON

Texts and doubles can be written so that they are read back.  A text stands in quotes, and its
quotes, backslashes and control characters are escaped.  A finite double is a whole number of
units of `2 ^ -1074`, so it is also a whole number of units of `10 ^ -1074`.
-/

namespace Reckon.Json

open Text (charactersOfUnits numeral signed_of_read)

variable {text rest : List Char} {cursor : Cursor}

/-- What is ahead behind a word. -/
theorem ahead_advance (word : List Char) {count : Nat} (length : word.length = count)
    (ahead : cursor.ahead = word ++ rest) : (cursor.advance count).ahead = rest := by
  rw [Cursor.advance, ahead, ← length]
  exact List.drop_left

theorem ahead_behind {mark : Char} (ahead : cursor.ahead = mark :: rest) :
    (cursor.advance 1).ahead = rest :=
  ahead_advance [mark] rfl ahead

/-! ## Texts -/

/-- How a character is written inside quotes. -/
def spelling (c : Char) : List Char :=
  if c = '"' ∨ c = '\\' then
    ['\\', c]
  else if c < ' ' then
    ['\\', 'u', '0', '0', (c.toNat / 16).digitChar, (c.toNat % 16).digitChar]
  else
    [c]

def quoted (text : List Char) : List Char :=
  '"' :: (text.flatMap spelling ++ ['"'])

theorem fourDigits?_control {code : Nat} (small : code < 32) (more : rest ≠ []) :
    fourDigits? ('0' :: '0' :: (code / 16).digitChar :: (code % 16).digitChar :: rest) =
      some code := by
  obtain ⟨first, behind, rfl⟩ := List.exists_cons_of_ne_nil more
  interval_cases code <;> rfl

/-- A character is read back from its spelling, escaped or not. -/
theorem readUnits_spelling (c : Char) (opening position : Nat) (more : rest ≠ []) :
    readUnits opening position (spelling c ++ rest) = (do
      let (units, count) ← readUnits opening (position + (spelling c).length) rest
      return (c.toNat :: units, count + (spelling c).length)) := by
  rw [spelling]
  split
  · rename_i escaped
    rcases escaped with rfl | rfl
    · rfl
    · rfl
  · rename_i plain
    split
    · rename_i control
      have small : c.toNat < 32 := control
      have code := fourDigits?_control small more
      simp only [List.cons_append, List.nil_append]
      rw [readUnits]
      · rfl
      · exact code
    · rename_i visible
      rw [not_or] at plain
      simp only [List.cons_append, List.nil_append]
      rw [readUnits, if_neg visible]
      · rfl
      · exact plain.1
      · exact fun _ backslash _ => plain.2 backslash
      · exact fun _ _ backslash _ => plain.2 backslash
      · exact fun backslash _ => plain.2 backslash

theorem readUnits_quoted (text : List Char) (opening position : Nat) :
    readUnits opening position (text.flatMap spelling ++ '"' :: rest) =
      .ok (text.map Char.toNat, (text.flatMap spelling).length + 1) := by
  induction text generalizing position with
  | nil => rfl
  | cons c text inductionHypothesis =>
      have more : text.flatMap spelling ++ '"' :: rest ≠ [] := by simp
      rw [List.flatMap_cons, List.append_assoc, readUnits_spelling c opening position more,
        inductionHypothesis]
      simp only [List.length_append, List.map_cons]
      change Except.ok _ = Except.ok _
      congr 2
      omega

theorem character_toNat (c : Char) : charactersOfUnits.character c.toNat = c := by
  have valid : c.toNat < 0xD800 ∨ 0xDFFF < c.toNat ∧ c.toNat < 0x110000 := c.valid
  rw [charactersOfUnits.character, if_neg (by omega), Char.ofNat_toNat]

/-- Code points are characters again: none of them is half of a pair. -/
theorem charactersOfUnits_toNat (text : List Char) :
    charactersOfUnits (text.map Char.toNat) = text := by
  induction text with
  | nil => rfl
  | cons c text inductionHypothesis =>
      cases text with
      | nil => rw [List.map_cons, List.map_nil, charactersOfUnits, character_toNat]
      | cons d text =>
          have valid : c.toNat < 0xD800 ∨ 0xDFFF < c.toNat ∧ c.toNat < 0x110000 := c.valid
          rw [List.map_cons] at inductionHypothesis
          rw [List.map_cons, List.map_cons, charactersOfUnits, if_neg (by omega), character_toNat,
            inductionHypothesis]

/-- A text in quotes is read back. -/
theorem readText_quoted (ahead : cursor.ahead = quoted text ++ rest) :
    ∃ behind, readText cursor = .ok (String.ofList text, behind) ∧ behind.ahead = rest := by
  have inside : (cursor.advance 1).ahead = (text.flatMap spelling ++ ['"']) ++ rest :=
    ahead_behind ahead
  have units : readUnits cursor.position (cursor.advance 1).position
      (text.flatMap spelling ++ '"' :: rest) = _ := readUnits_quoted text _ _
  rw [List.append_cons, ← inside] at units
  refine ⟨(cursor.advance 1).advance ((text.flatMap spelling).length + 1), ?_, ?_⟩
  · simp only [readText, units, bind, Except.bind, charactersOfUnits_toNat]
    rfl
  · exact ahead_advance _ List.length_append inside

/-! ## Doubles -/

theorem wholeDigits_toDigits (number : Nat) (stops : rest.takeWhile Text.isAsciiDigit = []) :
    wholeDigits (Nat.toDigits 10 number ++ rest) = Nat.toDigits 10 number := by
  have taken := Text.takeWhile_toDigits number stops
  by_cases zero : number = 0
  · rw [zero]
    rfl
  · have head := Text.head_toDigits (Nat.pos_of_ne_zero zero)
    obtain ⟨first, digits, spelled⟩ := List.exists_cons_of_ne_nil
      (Nat.toDigits_ne_nil : Nat.toDigits 10 number ≠ [])
    rw [spelled] at head taken ⊢
    rw [List.cons_append] at taken ⊢
    rw [wholeDigits]
    · exact taken
    · exact fun _ same => head (congrArg List.head? same)

theorem exponentWord_unitExponent (stops : rest.takeWhile Text.isAsciiDigit = []) :
    exponentWord (Text.unitExponent ++ rest) = Text.unitExponent := by
  have digits : (['1', '0', '7', '4'] ++ rest).takeWhile Text.isAsciiDigit =
      ['1', '0', '7', '4'] ++ rest.takeWhile Text.isAsciiDigit := rfl
  simp only [List.cons_append, List.nil_append, stops] at digits
  simp [exponentWord, Text.unitExponent, digits]

/-- The sign of a number is the first character, if that is none of its digits. -/
theorem signOfNumber (negative : Bool) (number : Nat) (rest : List Char) :
    ((((if negative then ['-'] else []) ++ (Nat.toDigits 10 number ++ rest)).take 1).filter
      (· = '-')) = if negative then ['-'] else [] := by
  cases negative with
  | true => rfl
  | false =>
      obtain ⟨first, digits, spelled⟩ := List.exists_cons_of_ne_nil
        (Nat.toDigits_ne_nil : Nat.toDigits 10 number ≠ [])
      have digit : first.isDigit := Text.isDigit_of_mem (spelled ▸ List.mem_cons_self)
      have other : first ≠ '-' := by
        rintro rfl
        cases digit
      rw [spelled]
      simp [other]

/-- A numeral is read up to what cannot go on with it. -/
theorem readNumber_signed {x : Float} {negative : Bool} {number : Nat}
    (spelled : Text.decimal? negative (Nat.toDigits 10 number ++ Text.unitExponent) = some x)
    (ahead : cursor.ahead = (if negative then ['-'] else []) ++
      (Nat.toDigits 10 number ++ (Text.unitExponent ++ rest)))
    (stops : rest.takeWhile Text.isAsciiDigit = []) :
    ∃ behind, readNumber cursor = .ok (.double x, behind) ∧ behind.ahead = rest := by
  have sign := signOfNumber negative number (Text.unitExponent ++ rest)
  have whole := wholeDigits_toDigits number
    (rfl : (Text.unitExponent ++ rest).takeWhile Text.isAsciiDigit = [])
  have exponent := exponentWord_unitExponent stops
  have fraction : fractionWord (Text.unitExponent ++ rest) = [] := rfl
  have filled : ¬(Nat.toDigits 10 number).isEmpty := by simp
  have longer : Nat.toDigits 10 number ++ Text.unitExponent ≠ Nat.toDigits 10 number := by
    simp [Text.unitExponent]
  have negated : (!(if negative then ['-'] else []).isEmpty) = negative := by
    cases negative <;> rfl
  refine ⟨cursor.advance ((if negative then ['-'] else []) ++
    (Nat.toDigits 10 number ++ Text.unitExponent)).length, ?_, ?_⟩
  · simp only [readNumber, sign, ahead, List.drop_left, whole, fraction, List.append_nil, exponent,
      filled, negated, spelled]
    rw [if_neg Bool.false_ne_true, if_pos longer]
  · apply ahead_advance _ rfl
    rw [ahead]
    simp only [List.append_assoc]

/-- What begins like a number, with a minus sign or a digit. -/
def BeginsNumber (text : List Char) : Prop :=
  ∃ first second behind, text = first :: behind ∧
    (first.isDigit ∨ first = '-' ∧ behind.head? = some second ∧ second.isDigit)

theorem beginsNumber_signed (negative : Bool) (number : Nat) (rest : List Char) :
    BeginsNumber ((if negative then ['-'] else []) ++ (Nat.toDigits 10 number ++ rest)) := by
  obtain ⟨first, digits, spelled⟩ := List.exists_cons_of_ne_nil
    (Nat.toDigits_ne_nil : Nat.toDigits 10 number ≠ [])
  have digit : first.isDigit := Text.isDigit_of_mem (spelled ▸ List.mem_cons_self)
  rw [spelled]
  cases negative with
  | true => exact ⟨'-', first, _, rfl, Or.inr ⟨rfl, rfl, digit⟩⟩
  | false => exact ⟨first, first, _, rfl, Or.inl digit⟩

theorem readWord?_of_number (number : BeginsNumber cursor.ahead) : readWord? cursor = none := by
  obtain ⟨first, second, behind, ahead, begins⟩ := number
  have other {c d : Char} (digit : d.isDigit) (letter : c.isDigit = false) : (c == d) = false := by
    rw [beq_eq_false_iff_ne]
    rintro rfl
    exact Bool.false_ne_true (letter.symm.trans digit)
  simp only [readWord?, words, ahead, List.findSome?]
  rcases begins with digit | ⟨rfl, next, digit⟩
  · simp [List.isPrefixOf, other digit]
  · obtain ⟨tail, rfl⟩ := List.head?_eq_some_iff.mp next
    simp [List.isPrefixOf, other digit]

theorem readValue_of_number {steps levels : Nat} (number : BeginsNumber cursor.ahead) :
    readValue (steps + 1) levels cursor = readNumber cursor := by
  have noWord := readWord?_of_number number
  obtain ⟨first, second, behind, ahead, begins⟩ := number
  have plain : first.isDigit ∨ first = '-' := begins.imp_right And.left
  rw [readValue]
  split
  · rename_i opened
    cases ahead.symm.trans opened
    exact absurd plain (by decide)
  · rename_i opened
    cases ahead.symm.trans opened
    exact absurd plain (by decide)
  · rename_i opened
    cases ahead.symm.trans opened
    exact absurd plain (by decide)
  · rw [noWord]

/-! ## Values -/

theorem skipBlanks_eq {c : Char} (visible : isBlank c = false) (ahead : cursor.ahead = c :: rest) :
    skipBlanks cursor = cursor := by
  have none : cursor.ahead.takeWhile isBlank = [] := by
    rw [ahead, List.takeWhile_cons, visible]
    rfl
  rw [skipBlanks, Cursor.skipWhile, none]
  rfl

theorem skipBlanks_end (ended : cursor.ahead = []) : skipBlanks cursor = cursor := by
  rw [skipBlanks, Cursor.skipWhile, ended]
  rfl

theorem expect_eq {mark : Char} (ahead : cursor.ahead = mark :: rest) :
    expect mark cursor = .ok (cursor.advance 1) := by
  rw [expect, ahead]
  exact if_pos rfl

/-- A word is read as a value wherever no digit follows it. -/
structure Reads (steps levels : Nat) (word : List Char) (value : Json) : Prop where
  begins : ∃ first behind, word = first :: behind ∧ isBlank first = false ∧ first ≠ ']'
  read : ∀ cursor rest, rest.takeWhile Text.isAsciiDigit = [] → cursor.ahead = word ++ rest →
    ∃ behind, readValue steps levels cursor = .ok (value, behind) ∧ behind.ahead = rest

theorem readValue_quote (steps levels : Nat) (ahead : cursor.ahead = '"' :: rest) :
    readValue (steps + 1) levels cursor =
      (do
        let (value, behind) ← readText cursor
        return (Json.text value, behind)) := by
  obtain ⟨position, characters⟩ := cursor
  cases ahead
  rfl

theorem reads_text (steps levels : Nat) (text : List Char) :
    Reads (steps + 1) levels (quoted text) (.text (String.ofList text)) := by
  constructor
  · exact ⟨'"', _, rfl, rfl, by decide⟩
  · intro cursor rest _ ahead
    obtain ⟨behind, read, left⟩ := readText_quoted ahead
    refine ⟨behind, ?_, left⟩
    rw [readValue_quote steps levels ahead, read]
    rfl

theorem visible_of_begins {first : Char} (begins : first.isDigit ∨ first = '-') :
    isBlank first = false ∧ first ≠ ']' := by
  rcases begins with digit | rfl
  · constructor
    · apply Bool.eq_false_iff.mpr
      intro blank
      simp only [isBlank, Bool.or_eq_true, decide_eq_true_eq] at blank
      rcases blank with ((rfl | rfl) | rfl) | rfl <;> cases digit
    · rintro rfl
      cases digit
  · exact ⟨rfl, by decide⟩

theorem begins_numeral (x : Float) :
    ∃ first behind, numeral x = first :: behind ∧ isBlank first = false ∧ first ≠ ']' := by
  rcases Double.kinds x with rfl | rfl | rfl | finite
  · exact ⟨'N', _, rfl, rfl, by decide⟩
  · exact ⟨'I', _, rfl, rfl, by decide⟩
  · exact ⟨'-', _, rfl, rfl, by decide⟩
  · obtain ⟨negative, units, reading⟩ := Double.read_of_isFinite finite
    have signed := signed_of_read reading []
    obtain ⟨first, second, behind, spelled, begins⟩ := signed ▸ beginsNumber_signed negative
      (units * Text.decimalUnits) (Text.unitExponent ++ [])
    rw [List.append_nil] at spelled
    exact ⟨first, behind, spelled, visible_of_begins (begins.imp_right And.left)⟩

theorem reads_numeral (steps levels : Nat) (x : Float) :
    Reads (steps + 1) levels (numeral x) (.double x) := by
  refine ⟨begins_numeral x, ?_⟩
  rintro ⟨position, characters⟩ rest stops ahead
  cases ahead
  rcases Double.kinds x with rfl | rfl | rfl | finite
  · exact ⟨_, rfl, rfl⟩
  · exact ⟨_, rfl, rfl⟩
  · exact ⟨_, rfl, rfl⟩
  · obtain ⟨negative, units, reading⟩ := Double.read_of_isFinite finite
    have signed := signed_of_read reading rest
    have begins : BeginsNumber (numeral x ++ rest) := signed ▸ beginsNumber_signed negative _ _
    rw [readValue_of_number begins]
    exact readNumber_signed (Text.decimal?_toDigits reading) signed stops

/-- The elements behind the first one of an array, and its bracket. -/
def elementsBehind : List Float → List Char
  | [] => [']']
  | x :: xs => ',' :: (numeral x ++ elementsBehind xs)

def written : List Float → List Char
  | [] => ['[', ']']
  | x :: xs => '[' :: (numeral x ++ elementsBehind xs)

theorem length_elementsBehind (xs : List Float) : xs.length < (elementsBehind xs).length := by
  induction xs with
  | nil => decide
  | cons x xs inductionHypothesis =>
      simp only [elementsBehind, List.length_cons, List.length_append]
      omega

theorem length_written (xs : List Float) : xs.length < (written xs).length := by
  cases xs with
  | nil => decide
  | cons x xs =>
      have behind := length_elementsBehind xs
      simp only [written, List.length_cons, List.length_append]
      omega

theorem takeWhile_elementsBehind (xs : List Float) (rest : List Char) :
    (elementsBehind xs ++ rest).takeWhile Text.isAsciiDigit = [] := by
  cases xs <;> rfl

/-- By induction on the numerals; each comma lets the next one begin. -/
theorem readElements_numerals {steps : Nat} (levels : Nat) (x : Float) (xs : List Float)
    (room : xs.length + 1 < steps)
    (ahead : cursor.ahead = numeral x ++ (elementsBehind xs ++ rest)) :
    ∃ behind, readElements steps levels cursor = .ok ((x :: xs).map .double, behind) ∧
      behind.ahead = rest := by
  induction xs generalizing x cursor steps with
  | nil =>
      obtain ⟨steps, rfl⟩ : ∃ fewer, steps = fewer + 2 := ⟨steps - 2, by simp at room; omega⟩
      obtain ⟨place, read, bracket⟩ := (reads_numeral steps levels x).read cursor _
        (takeWhile_elementsBehind [] rest) ahead
      have visible := skipBlanks_eq (by decide) bracket
      refine ⟨place.advance 1, ?_, ahead_behind bracket⟩
      rw [readElements, read]
      simp only [bind, Except.bind, visible, bracket]
      rfl
  | cons y xs inductionHypothesis =>
      obtain ⟨steps, rfl⟩ : ∃ fewer, steps = fewer + 2 := ⟨steps - 2, by simp at room; omega⟩
      obtain ⟨place, read, comma⟩ := (reads_numeral steps levels x).read cursor _
        (takeWhile_elementsBehind (y :: xs) rest) ahead
      have next : (place.advance 1).ahead = numeral y ++ (elementsBehind xs ++ rest) := by
        rw [← List.append_assoc]
        exact ahead_behind comma
      obtain ⟨first, others, spelled, plain, -⟩ := begins_numeral y
      have started : (place.advance 1).ahead =
          first :: (others ++ (elementsBehind xs ++ rest)) := by
        rw [next, spelled]
        rfl
      obtain ⟨behind, readOthers, left⟩ := inductionHypothesis y
        (by simp only [List.length_cons] at room; omega : xs.length + 1 < steps + 1) next
      have separated : place.ahead.head? ≠ some ']' := by
        rw [comma]
        exact nofun
      refine ⟨behind, ?_, left⟩
      rw [readElements, read]
      simp only [bind, Except.bind, skipBlanks_eq (by decide) comma, expect_eq comma,
        skipBlanks_eq plain started, readOthers, if_neg separated]
      rfl

theorem readValue_bracket (steps levels : Nat) (ahead : cursor.ahead = '[' :: rest) :
    readValue (steps + 1) (levels + 1) cursor =
      (let inside := skipBlanks (cursor.advance 1)
      if inside.ahead.head? = some ']' then
        .ok (array [], inside.advance 1)
      else do
        let (elements, behind) ← readElements steps levels inside
        return (array elements, behind)) := by
  obtain ⟨position, characters⟩ := cursor
  cases ahead
  rfl

theorem readValue_brace (steps levels : Nat) (ahead : cursor.ahead = '{' :: rest) :
    readValue (steps + 1) (levels + 1) cursor =
      (let inside := skipBlanks (cursor.advance 1)
      if inside.ahead.head? = some '}' then
        .ok (object [], inside.advance 1)
      else do
        let (members, behind) ← readMembers steps levels [] inside
        return (object members, behind)) := by
  obtain ⟨position, characters⟩ := cursor
  cases ahead
  rfl

/-- A written list is read back within one level. -/
theorem reads_written {steps : Nat} (levels : Nat) (xs : List Float) (room : xs.length < steps) :
    Reads (steps + 1) (levels + 1) (written xs) (.array (xs.map .double)) := by
  cases xs with
  | nil =>
      refine ⟨⟨'[', _, rfl, rfl, by decide⟩, ?_⟩
      rintro ⟨position, characters⟩ rest - ahead
      cases ahead
      exact ⟨_, rfl, rfl⟩
  | cons x xs =>
      refine ⟨⟨'[', _, rfl, rfl, by decide⟩, ?_⟩
      intro cursor rest _ ahead
      have inside : (cursor.advance 1).ahead = numeral x ++ (elementsBehind xs ++ rest) := by
        rw [← List.append_assoc]
        exact ahead_behind ahead
      obtain ⟨first, others, spelled, plain, other⟩ := begins_numeral x
      have started : (cursor.advance 1).ahead =
          first :: (others ++ (elementsBehind xs ++ rest)) := by
        rw [inside, spelled]
        rfl
      obtain ⟨behind, read, left⟩ := readElements_numerals levels x xs
        (room : xs.length + 1 < steps) inside
      have filled : (cursor.advance 1).ahead.head? ≠ some ']' := by
        rw [started]
        exact fun same => other (Option.some.inj same)
      refine ⟨behind, ?_, left⟩
      rw [readValue_bracket steps levels ahead]
      simp only [skipBlanks_eq plain started, if_neg filled, read]
      rfl

/-! ## Members -/

/-- A member is read up to the mark behind its value. -/
theorem readMembers_eq {steps levels : Nat} {name word : List Char} {value : Json} {mark : Char}
    (reads : Reads steps levels word value) (before : List (String × Json))
    (stops : (mark :: rest).takeWhile Text.isAsciiDigit = []) (visible : isBlank mark = false)
    (ahead : cursor.ahead = quoted name ++ (':' :: (word ++ (mark :: rest)))) :
    ∃ place, place.ahead = mark :: rest ∧ readMembers (steps + 1) levels before cursor =
      (let members := putMember (String.ofList name) value before
      if place.ahead.head? = some '}' then
        .ok (members, place.advance 1)
      else do
        let behindComma ← expect ',' place
        readMembers steps levels members (skipBlanks behindComma)) := by
  obtain ⟨behindName, readName, colon⟩ := readText_quoted ahead
  have separated := skipBlanks_eq (by decide) colon
  have next := ahead_behind colon
  obtain ⟨first, others, rfl, plain, -⟩ := reads.begins
  have started := skipBlanks_eq plain next
  obtain ⟨place, readValue, left⟩ := reads.read _ _ stops next
  refine ⟨place, left, ?_⟩
  rw [readMembers, expect_eq ahead, readName]
  simp only [bind, Except.bind, separated, expect_eq colon, started, readValue,
    skipBlanks_eq visible left]
  rfl

/-- The last member of an object and its brace. -/
theorem readMembers_last {steps levels : Nat} {name word : List Char} {value : Json}
    (reads : Reads steps levels word value) (before : List (String × Json))
    (ahead : cursor.ahead = quoted name ++ (':' :: (word ++ ('}' :: rest)))) :
    ∃ behind, readMembers (steps + 1) levels before cursor =
        .ok (putMember (String.ofList name) value before, behind) ∧ behind.ahead = rest := by
  obtain ⟨place, brace, read⟩ := readMembers_eq reads before rfl rfl ahead
  have closed : place.ahead.head? = some '}' := by rw [brace]; rfl
  refine ⟨place.advance 1, ?_, ahead_behind brace⟩
  rw [read]
  exact if_pos closed

/-- A member of an object, and the members behind it. -/
theorem readMembers_more {steps levels : Nat} {name word : List Char} {value : Json}
    (reads : Reads steps levels word value) (before : List (String × Json))
    (ahead : cursor.ahead = quoted name ++ (':' :: (word ++ (',' :: '"' :: rest)))) :
    ∃ behind, readMembers (steps + 1) levels before cursor =
        readMembers steps levels (putMember (String.ofList name) value before) behind ∧
      behind.ahead = '"' :: rest := by
  obtain ⟨place, comma, read⟩ := readMembers_eq reads before rfl rfl ahead
  have next := ahead_behind comma
  have separated : place.ahead.head? ≠ some '}' := by
    rw [comma]
    exact nofun
  refine ⟨place.advance 1, ?_, next⟩
  rw [read]
  simp only [if_neg separated, expect_eq comma, bind, Except.bind, skipBlanks_eq (by decide) next]

end Reckon.Json
