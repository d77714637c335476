import Reckon.Proofs.Double.Exact
import Reckon.Text.Numeral

/-!
# Numerals of doubles

A finite double is a whole number of units of `2 ^ -1074`, so it is a whole number of units of
`10 ^ -1074` too.  The digits of that number with an exponent spell the double
(`Text.decimal?_toDigits`).
-/

namespace Reckon.Text

open Double (unitsOfMagnitude_lt unitsOfMagnitude_eq_zero scale_le)

variable {x : Float} {negative : Bool} {units least most bound factor number : Nat}
  {rest : List Char}

/-! ## Digits -/

theorem toNat_of_isDigit {c : Char} (digit : c.isDigit) : 0x30 ≤ c.toNat ∧ c.toNat ≤ 0x39 := by
  simpa [Char.isDigit, UInt32.le_iff_toNat_le] using digit

theorem isAsciiDigit_of_isDigit {c : Char} (digit : c.isDigit) : isAsciiDigit c := by
  simpa [isAsciiDigit, Char.isDigit, Char.le_def] using digit

theorem decimalDigit?_of_isDigit {c : Char} (digit : c.isDigit) :
    decimalDigit? c = some (c.toNat - 0x30) := by
  obtain ⟨lower, upper⟩ := toNat_of_isDigit digit
  have below : c.toNat < 0x30 + 10 := by omega
  simp [decimalDigit?, zeroDigits, lower, below]

/-- Digits of natural numbers are ASCII digits. -/
theorem isDigit_of_mem {c : Char} (member : c ∈ Nat.toDigits 10 number) :
    c.isDigit :=
  Nat.isDigit_of_mem_toDigits (by decide) (by decide) member

theorem digitsValue_toDigits (number : Nat) :
    digitsValue (Nat.toDigits 10 number) = number := by
  have digits : digitsValue (Nat.toDigits 10 number) =
      Nat.ofDigitChars 10 (Nat.toDigits 10 number) 0 := by
    rw [digitsValue, Nat.ofDigitChars_eq_foldl]
    apply List.foldl_ext
    intro value c member
    rw [decimalDigit?_of_isDigit (isDigit_of_mem member)]
    rfl
  rw [digits, Nat.ofDigitChars_ten_toDigits]

theorem head_toDigits (positive : 0 < number) :
    (Nat.toDigits 10 number).head? ≠ some '0' := by
  induction number using Nat.strongRecOn with
  | ind number inductionHypothesis =>
      rw [Nat.toDigits_eq_if (by decide)]
      split
      · rename_i single
        interval_cases number <;> decide
      · rename_i several
        have others := inductionHypothesis (number / 10) (by omega) (by omega)
        rwa [List.head?_append_of_ne_nil _ Nat.toDigits_ne_nil]

theorem takeWhile_toDigits (number : Nat) (stops : rest.takeWhile isAsciiDigit = []) :
    (Nat.toDigits 10 number ++ rest).takeWhile isAsciiDigit = Nat.toDigits 10 number := by
  rw [List.takeWhile_append_of_pos, stops, List.append_nil]
  intro c member
  exact isAsciiDigit_of_isDigit (isDigit_of_mem member)

/-! ## Scaled numbers -/

/-- How many units of `10 ^ -1074` are one of `2 ^ -1074`. -/
def decimalUnits : Nat :=
  Nat.pow 5 1074

theorem decimalUnits_mul : decimalUnits * Double.unitsPerOne = Nat.pow 10 1074 := by
  decide +kernel

theorem lt_length_toDigits (positive : 0 < least) (long : 10 ^ least ≤ units) :
    least < (Nat.toDigits 10 units).length := by
  rw [← Nat.not_le, Nat.length_toDigits_le_iff (by decide) positive, Nat.not_lt]
  exact long

theorem length_toDigits_le (positive : 0 < factor) (small : units < bound)
    (short : bound * factor ≤ 10 ^ (most + 1)) :
    (Nat.toDigits 10 (units * factor)).length ≤ most + 1 := by
  rw [Nat.length_toDigits_le_iff (by decide) (Nat.succ_pos most)]
  exact Nat.lt_of_lt_of_le (Nat.mul_lt_mul_of_pos_right small positive) short

/-- How many places the units of a finite double take up. -/
theorem length_units (positive : 0 < Double.unitsOfMagnitude bits)
    (finite : bits < Double.infinityMagnitude) :
    674 < (Nat.toDigits 10 (Double.unitsOfMagnitude bits * decimalUnits)).length ∧
      (Nat.toDigits 10 (Double.unitsOfMagnitude bits * decimalUnits)).length ≤ 1474 := by
  constructor
  · apply lt_length_toDigits (by decide)
    apply Nat.le_trans _ (Nat.le_mul_of_pos_left _ positive)
    decide +kernel
  · apply length_toDigits_le _ (unitsOfMagnitude_lt (scale_le finite))
    · decide +kernel
    · decide +kernel

/-- A numeral that has the exact value of a double spells it, whatever its places. -/
theorem scaled_of_read {places : Nat} (reading : Double.read x = .finite negative units)
    (positive : 0 < factor) (scale : factor * Double.unitsPerOne = Nat.pow 10 places)
    (lengths : 0 < units → places < (Nat.toDigits 10 (units * factor)).length + 400 ∧
      (Nat.toDigits 10 (units * factor)).length ≤ places + 400) :
    scaled negative (units * factor) (-places) = x := by
  obtain ⟨finite, rfl, parts⟩ := Double.of_read_finite reading
  rw [scaled]
  by_cases zero : Double.unitsOfMagnitude (Double.magnitude x) = 0
  · rw [if_pos (Or.inl (Nat.mul_eq_zero.mpr (Or.inl zero))), ← unitsOfMagnitude_eq_zero zero]
    exact parts
  · obtain ⟨lower, upper⟩ := lengths (Nat.pos_of_ne_zero zero)
    have nonzero : Double.unitsOfMagnitude (Double.magnitude x) * factor ≠ 0 :=
      Nat.mul_ne_zero zero (Nat.ne_of_gt positive)
    have above : (-(places : Int)).toNat = 0 := Int.toNat_neg_natCast places
    rw [if_neg (not_or.mpr ⟨nonzero, by omega⟩), if_neg (by omega), above, Int.neg_neg,
      Int.toNat_natCast]
    have power : 0 < Nat.pow 10 places := Nat.pow_pos (by decide)
    apply Double.nearest_of_read reading power
    rw [← scale, Nat.pow_eq, Nat.pow_zero, Nat.mul_one, Nat.mul_assoc]

/-- A double is spelled exactly by its units of `10 ^ -1074`. -/
theorem scaled_decimalUnits (reading : Double.read x = .finite negative units) :
    scaled negative (units * decimalUnits) (-1074) = x := by
  have positive : 0 < decimalUnits := by decide +kernel
  apply scaled_of_read reading positive decimalUnits_mul
  intro filled
  obtain ⟨finite, rfl, -⟩ := Double.of_read_finite reading
  have lengths := length_units filled finite
  omega

/-! ## Exponents -/

/-- The exponent of units of `10 ^ -1074`. -/
def unitExponent : List Char :=
  ['e', '-', '1', '0', '7', '4']

theorem dropWhile_toDigits (number : Nat) (stops : rest.dropWhile isAsciiDigit = rest) :
    (Nat.toDigits 10 number ++ rest).dropWhile isAsciiDigit = rest := by
  rw [List.dropWhile_append_of_pos, stops]
  intro c member
  exact isAsciiDigit_of_isDigit (isDigit_of_mem member)

/-- A numeral is read as its digits and its exponent tell. -/
theorem decimal?_of_scaled (spelled : scaled negative number (-1074) = x) :
    decimal? negative (Nat.toDigits 10 number ++ unitExponent) = some x := by
  have stops : unitExponent.takeWhile isAsciiDigit = [] := rfl
  have stays : unitExponent.dropWhile isAsciiDigit = unitExponent := rfl
  simp only [decimal?, takeWhile_toDigits number stops, dropWhile_toDigits number stays]
  change (if (Nat.toDigits 10 number ++ []).isEmpty then none else
    (exponent? unitExponent).map fun exponent =>
      scaled negative (digitsValue (Nat.toDigits 10 number ++ [])) (exponent - (0 : Nat))) = _
  have places : exponent? unitExponent = some (-1074) := by decide
  have filled : ¬(Nat.toDigits 10 number).isEmpty := by simp
  rw [List.append_nil, if_neg filled, places, digitsValue_toDigits, Option.map_some,
    Int.natCast_zero, Int.sub_zero, spelled]

theorem decimal?_toDigits (reading : Double.read x = .finite negative units) :
    decimal? negative (Nat.toDigits 10 (units * decimalUnits) ++ unitExponent) = some x :=
  decimal?_of_scaled (scaled_decimalUnits reading)

/-! ## Doubles -/

/-- How a double is written. -/
def numeral (x : Float) : List Char :=
  match Double.read x with
  | .nan => "NaN".toList
  | .infinite negative => (if negative then "-Infinity" else "Infinity").toList
  | .finite negative units =>
      (if negative then ['-'] else []) ++
        (Nat.toDigits 10 (units * decimalUnits) ++ unitExponent)

theorem signed_of_read (reading : Double.read x = .finite negative units) (rest : List Char) :
    numeral x ++ rest = (if negative then ['-'] else []) ++
      (Nat.toDigits 10 (units * decimalUnits) ++ (unitExponent ++ rest)) := by
  rw [numeral, reading]
  simp only [List.append_assoc]

/-- What numerals are made of: no blanks, no underscores and no digits beyond ASCII. -/
def isNumeralLetter (c : Char) : Bool :=
  c.isDigit || c.isAlpha || c = '-'

theorem isNumeralLetter_of_mem {c : Char} (member : c ∈ numeral x) : isNumeralLetter c := by
  rcases Double.kinds x with rfl | rfl | rfl | finite
  · have all : (numeral Double.nan).all isNumeralLetter := by decide
    exact List.all_eq_true.mp all c member
  · have all : (numeral Double.infinity).all isNumeralLetter := by decide
    exact List.all_eq_true.mp all c member
  · have all : (numeral (-Double.infinity)).all isNumeralLetter := by decide
    exact List.all_eq_true.mp all c member
  · obtain ⟨negative, units, reading⟩ := Double.read_of_isFinite finite
    have signed := signed_of_read reading []
    simp only [List.append_nil] at signed
    rw [signed, List.mem_append, List.mem_append] at member
    rcases member with sign | digit | exponent
    · cases negative with
      | true =>
          cases List.mem_singleton.mp sign
          rfl
      | false => cases sign
    · simp [isNumeralLetter, isDigit_of_mem digit]
    · have all : unitExponent.all isNumeralLetter := by decide
      exact List.all_eq_true.mp all c exponent

/-- What the written convention makes of a single character. -/
def asciiForm (c : Char) : Char :=
  match decimalDigit? c with
  | some value => Char.ofNat ('0'.toNat + value)
  | none => c

theorem decimalDigit?_lt {c : Char} {value : Nat} (digit : decimalDigit? c = some value) :
    value < 10 := by
  rw [decimalDigit?, Option.map_eq_some_iff] at digit
  obtain ⟨first, found, rfl⟩ := digit
  have within := List.find?_some found
  rw [Bool.and_eq_true, decide_eq_true_eq, decide_eq_true_eq] at within
  omega

theorem decimalDigit?_asciiForm (c : Char) : decimalDigit? (asciiForm c) = decimalDigit? c := by
  have all : ∀ value < 10, decimalDigit? (Char.ofNat ('0'.toNat + value)) = some value := by
    decide
  rw [asciiForm]
  cases digit : decimalDigit? c with
  | none => exact digit
  | some value => exact all value (decimalDigit?_lt digit)

theorem plain_of_isNumeralLetter {c : Char} (letter : isNumeralLetter c) :
    isWhiteSpace c = false ∧ c ≠ '_' ∧ asciiForm c = c := by
  have all : ∀ code < 0x80, isNumeralLetter (.ofNat code) →
      isWhiteSpace (.ofNat code) = false ∧ Char.ofNat code ≠ '_' ∧
        asciiForm (.ofNat code) = .ofNat code := by decide +kernel
  have small : c.toNat < 0x80 := by
    simp only [isNumeralLetter, Char.isDigit, Char.isAlpha, Char.isUpper, Char.isLower,
      Bool.or_eq_true, Bool.and_eq_true, decide_eq_true_eq, UInt32.le_iff_toNat_le] at letter
    rcases letter with (digit | upper | lower) | rfl
    · exact Nat.lt_of_le_of_lt digit.2 (by decide)
    · exact Nat.lt_of_le_of_lt upper.2 (by decide)
    · exact Nat.lt_of_le_of_lt lower.2 (by decide)
    · decide
  simpa only [Char.ofNat_toNat] using all c.toNat small (by rwa [Char.ofNat_toNat])

theorem trim_eq {text : List Char} (visible : ∀ c ∈ text, isWhiteSpace c = false) :
    trim text = text := by
  have stays {text : List Char} (visible : ∀ c ∈ text, isWhiteSpace c = false) :
      text.dropWhile isWhiteSpace = text := by
    cases text with
    | nil => rfl
    | cons c text => simp [visible c List.mem_cons_self]
  rw [trim, stays visible, stays, List.reverse_reverse]
  intro c member
  exact visible c (List.mem_reverse.mp member)

theorem join_eq {text : List Char} (plain : '_' ∉ text) (previous : Option Char) :
    writtenForm.join previous text = text := by
  induction text generalizing previous with
  | nil => rfl
  | cons c text inductionHypothesis =>
      obtain ⟨other, others⟩ := List.ne_and_not_mem_of_not_mem_cons plain
      rw [writtenForm.join, inductionHypothesis others]
      exact fun same => other same.symm

theorem writtenForm_eq {text : List Char} (letters : ∀ c ∈ text, isNumeralLetter c) :
    writtenForm (String.ofList text) = text := by
  have visible := trim_eq fun c member => (plain_of_isNumeralLetter (letters c member)).1
  have ascii : text.map asciiForm = text := by
    have same := List.map_congr_left fun c member =>
      (plain_of_isNumeralLetter (letters c member)).2.2
    exact same.trans (List.map_id text)
  have plain : '_' ∉ text := by
    intro member
    exact (plain_of_isNumeralLetter (letters '_' member)).2.1 rfl
  change writtenForm.join none ((trim (String.ofList text).toList).map asciiForm) = text
  rw [String.toList_ofList, visible, ascii, join_eq plain]

theorem takeSign_signed {text : List Char} (negative : Bool) (digit : text.head?.any Char.isDigit) :
    takeSign ((if negative then ['-'] else []) ++ text) = (negative, text) := by
  cases negative with
  | true => rfl
  | false =>
      change takeSign text = (false, text)
      rw [takeSign]
      · rintro rest rfl
        cases digit
      · rintro rest rfl
        cases digit

/-- What begins with a digit is no word. -/
theorem lowercase_ne {text : List Char} (digit : text.head?.any Char.isDigit) (word : String)
    (letter : word.toList.head?.any Char.isAlpha) :
    String.ofList (text.map Char.toLower) ≠ word := by
  rintro rfl
  obtain ⟨c, rest, rfl⟩ : ∃ c rest, text = c :: rest := by
    cases text with
    | nil => cases digit
    | cons c rest => exact ⟨c, rest, rfl⟩
  have all : ∀ code < 0x3A, 0x30 ≤ code → ¬(Char.ofNat code).toLower.isAlpha := by decide
  obtain ⟨lower, upper⟩ := toNat_of_isDigit digit
  have other := all c.toNat (by omega) lower
  rw [Char.ofNat_toNat] at other
  exact other (by simpa using letter)

theorem plainDouble?_signed (reading : Double.read x = .finite negative units) :
    plainDouble? (numeral x) = some x := by
  have signed := signed_of_read reading []
  simp only [List.append_nil] at signed
  have digit : (Nat.toDigits 10 (units * decimalUnits) ++ unitExponent).head?.any Char.isDigit := by
    obtain ⟨first, digits, spelled⟩ := List.exists_cons_of_ne_nil
      (Nat.toDigits_ne_nil : Nat.toDigits 10 (units * decimalUnits) ≠ [])
    rw [spelled]
    exact isDigit_of_mem (spelled ▸ List.mem_cons_self)
  have noWord := lowercase_ne digit
  rw [signed, plainDouble?, takeSign_signed negative digit]
  simp only [noWord "inf" rfl, noWord "infinity" rfl, noWord "nan" rfl, or_self, if_false]
  exact decimal?_toDigits reading

/-- Every double can be written. -/
theorem writtenDouble?_numeral (x : Float) :
    writtenDouble? (String.ofList (numeral x)) = some x := by
  rw [writtenDouble?, writtenForm_eq fun c => isNumeralLetter_of_mem]
  rcases Double.kinds x with rfl | rfl | rfl | finite
  · decide
  · decide
  · decide
  · obtain ⟨negative, units, reading⟩ := Double.read_of_isFinite finite
    exact plainDouble?_signed reading

end Reckon.Text
