import Reckon.Formula.Build
import Reckon.Proofs.Double.Range
import Reckon.Proofs.Grammar.Word
import Reckon.Proofs.Text.Numeral

/-!
# What number literals spell

The digits of a literal count by their places, in front of the point and behind it
(`Formula.Spells`).  The value of the literal is this rational number, rounded once
(`Formula.isRounded_literalValue`), so that zeros at the ends and the scripts of the digits do not
matter (`Formula.build_literal`).
-/

namespace Reckon.Formula

open Double (IsRounded)
open Grammar (IsDigits Terminal)

variable {c : Char} {digits others word : List Char} {exact exact' : ℚ}

/-! ## Digits by their places -/

/-- The number that a digit of any script stands for. -/
def digitValue (digit : Char) : ℚ :=
  (Text.decimalDigit? digit).getD 0

/-- The number that digits spell in front of a point. -/
def wholeValue : List Char → ℚ
  | [] => 0
  | digit :: digits => digitValue digit * 10 ^ digits.length + wholeValue digits

/-- The number that digits spell behind a point. -/
def fractionValue : List Char → ℚ
  | [] => 0
  | digit :: digits => (digitValue digit + fractionValue digits) / 10

/-- Positional notation: the places in front count by the places behind. -/
theorem wholeValue_append (digits others : List Char) :
    wholeValue (digits ++ others) = wholeValue digits * 10 ^ others.length + wholeValue others := by
  induction digits with
  | nil => rw [List.nil_append, wholeValue, zero_mul, zero_add]
  | cons digit digits inductionHypothesis =>
      rw [List.cons_append, wholeValue, wholeValue, inductionHypothesis, List.length_append,
        pow_add]
      ring

theorem fractionValue_eq (digits : List Char) :
    fractionValue digits = wholeValue digits / 10 ^ digits.length := by
  induction digits with
  | nil => rw [fractionValue, wholeValue, zero_div]
  | cons digit digits inductionHypothesis =>
      rw [fractionValue, wholeValue, inductionHypothesis, List.length_cons, pow_succ]
      field_simp

theorem cast_digitsValue (digits : List Char) :
    (Text.digitsValue digits : ℚ) = wholeValue digits := by
  induction digits using List.reverseRecOn with
  | nil => rfl
  | append_singleton digits digit inductionHypothesis =>
      rw [wholeValue_append, ← inductionHypothesis, Text.digitsValue, List.foldl_append]
      simp [Text.digitsValue, wholeValue, digitValue, mul_comm]

/-! ## Literals -/

/-- A literal and the rational number that it spells. -/
inductive Spells : List Char → ℚ → Prop where
  | integer {digits : List Char} (isDigits : IsDigits digits) : Spells digits (wholeValue digits)
  | decimal {digits fraction : List Char} (isDigits : IsDigits digits)
      (isFraction : IsDigits fraction) :
      Spells (digits ++ '.' :: fraction) (wholeValue digits + fractionValue fraction)

/-- What the terminal takes is what spells a number. -/
theorem spells_iff : Terminal.number.Spells word ↔ ∃ exact, Spells word exact := by
  constructor
  · rintro (isDigits | ⟨digits, fraction, rfl, isDigits, isFraction⟩)
    · exact ⟨_, .integer isDigits⟩
    · exact ⟨_, .decimal isDigits isFraction⟩
  · rintro ⟨exact, ⟨isDigits⟩ | ⟨isDigits, isFraction⟩⟩
    · exact Or.inl isDigits
    · exact Or.inr ⟨_, _, rfl, isDigits, isFraction⟩

theorem ne_point (isDigits : IsDigits digits) : ∀ c ∈ digits, decide (c ≠ '.') = true := by
  intro c member
  rw [decide_eq_true_eq]
  rintro rfl
  exact absurd (isDigits.2 '.' member) (by decide)

theorem literalParts_integer (isDigits : IsDigits digits) : literalParts digits = (digits, []) := by
  rw [literalParts, List.takeWhile_eq_self_iff.mpr (ne_point isDigits),
    List.dropWhile_eq_nil_iff.mpr (ne_point isDigits), List.drop_nil]

theorem literalParts_decimal (isDigits : IsDigits digits) (fraction : List Char) :
    literalParts (digits ++ '.' :: fraction) = (digits, fraction) := by
  rw [literalParts, List.takeWhile_append_of_pos (ne_point isDigits),
    List.dropWhile_append_of_pos (ne_point isDigits)]
  simp

/-- The digits in front of the point and behind it, read as one number, count tenths as many times
as there are digits behind the point. -/
theorem Spells.eq_quotient (spells : Spells word exact) :
    exact = Text.digitsValue ((literalParts word).1 ++ (literalParts word).2) /
      (10 ^ (literalParts word).2.length : Nat) := by
  cases spells with
  | integer isDigits =>
      rw [literalParts_integer isDigits, List.append_nil, cast_digitsValue]
      simp
  | @decimal digits fraction isDigits _ =>
      rw [literalParts_decimal isDigits, cast_digitsValue, wholeValue_append, fractionValue_eq]
      push_cast
      field_simp

/-- A literal spells one number, wherever its point may stand. -/
theorem Spells.unique (first : Spells word exact) (second : Spells word exact') : exact = exact' :=
  first.eq_quotient.trans second.eq_quotient.symm

/-! ## Zeros and scripts -/

theorem digitValue_of_zero (isZero : Text.decimalDigit? c = some 0) : digitValue c = 0 := by
  rw [digitValue, isZero]
  rfl

theorem isDigits_append (isDigits : IsDigits digits) (isDigits' : IsDigits others) :
    IsDigits (digits ++ others) := by
  refine ⟨List.append_ne_nil_of_left_ne_nil isDigits.1 others, ?_⟩
  rw [List.forall_mem_append]
  exact ⟨isDigits.2, isDigits'.2⟩

theorem isDigits_singleton (isZero : Text.decimalDigit? c = some 0) : IsDigits [c] := by
  refine ⟨List.cons_ne_nil c [], ?_⟩
  rw [List.forall_mem_singleton, Text.isDecimalDigit, isZero]
  rfl

/-- A zero in front of a literal does not count. -/
theorem Spells.leading_zero (spells : Spells word exact) (isZero : Text.decimalDigit? c = some 0) :
    Spells (c :: word) exact := by
  have same (digits : List Char) : wholeValue digits = wholeValue (c :: digits) := by
    rw [wholeValue, digitValue_of_zero isZero, zero_mul, zero_add]
  cases spells with
  | integer isDigits =>
      rw [same]
      exact .integer (isDigits_append (isDigits_singleton isZero) isDigits)
  | decimal isDigits isFraction =>
      rw [same]
      exact .decimal (isDigits_append (isDigits_singleton isZero) isDigits) isFraction

/-- A zero behind all digits of a fraction does not count. -/
theorem Spells.trailing_zero (spells : Spells word exact) (point : '.' ∈ word)
    (isZero : Text.decimalDigit? c = some 0) : Spells (word ++ [c]) exact := by
  cases spells with
  | integer isDigits => exact absurd (isDigits.2 '.' point) (by decide)
  | @decimal digits fraction isDigits isFraction =>
      have same : fractionValue fraction = fractionValue (fraction ++ [c]) := by
        rw [fractionValue_eq, fractionValue_eq, wholeValue_append, wholeValue, wholeValue,
          digitValue_of_zero isZero, List.length_append, List.length_singleton, pow_succ]
        field_simp
        ring
      rw [same, List.append_assoc, List.cons_append]
      exact .decimal isDigits (isDigits_append isFraction (isDigits_singleton isZero))

/-- An integer is not changed by a fraction that is zero. -/
theorem Spells.zero_fraction (spells : Spells word exact) (integer : '.' ∉ word)
    (isZero : Text.decimalDigit? c = some 0) : Spells (word ++ ['.', c]) exact := by
  cases spells with
  | decimal => simp at integer
  | integer isDigits =>
      have none : fractionValue [c] = 0 := by
        rw [fractionValue, fractionValue, digitValue_of_zero isZero, zero_add, zero_div]
      rw [← add_zero (wholeValue word), ← none]
      exact .decimal isDigits (isDigits_singleton isZero)

theorem isDigits_asciiForm (isDigits : IsDigits digits) : IsDigits (digits.map Text.asciiForm) := by
  refine ⟨mt List.map_eq_nil_iff.mp isDigits.1, ?_⟩
  rw [List.forall_mem_map]
  intro c member
  rw [Text.isDecimalDigit, Text.decimalDigit?_asciiForm]
  exact isDigits.2 c member

theorem digitValue_asciiForm (digit : Char) :
    digitValue (Text.asciiForm digit) = digitValue digit := by
  rw [digitValue, digitValue, Text.decimalDigit?_asciiForm]

theorem wholeValue_asciiForm (digits : List Char) :
    wholeValue (digits.map Text.asciiForm) = wholeValue digits := by
  induction digits with
  | nil => rfl
  | cons digit digits inductionHypothesis =>
      rw [List.map_cons, wholeValue, wholeValue, digitValue_asciiForm, inductionHypothesis,
        List.length_map]

theorem fractionValue_asciiForm (digits : List Char) :
    fractionValue (digits.map Text.asciiForm) = fractionValue digits := by
  rw [fractionValue_eq, fractionValue_eq, wholeValue_asciiForm, List.length_map]

/-- Digits may be written in any script, each in its own. -/
theorem Spells.in_ascii (spells : Spells word exact) : Spells (word.map Text.asciiForm) exact := by
  cases spells with
  | @integer digits isDigits =>
      rw [← wholeValue_asciiForm]
      exact .integer (isDigits_asciiForm isDigits)
  | @decimal digits fraction isDigits isFraction =>
      have point : Text.asciiForm '.' = '.' := by decide
      rw [← wholeValue_asciiForm, ← fractionValue_asciiForm, List.map_append, List.map_cons, point]
      exact .decimal (isDigits_asciiForm isDigits) (isDigits_asciiForm isFraction)

/-! ## Values of literals -/

/-- The value of a literal is the rounded number that it spells. -/
theorem isRounded_literalValue (spells : Spells word exact) :
    IsRounded exact (literalValue word) := by
  rw [spells.eq_quotient]
  exact Double.isRounded_nearest (Nat.pow_pos (by decide))

theorem Spells.nonneg (spells : Spells word exact) : 0 ≤ exact := by
  rw [spells.eq_quotient]
  positivity

/-- What the number terminal takes off a text spells one rational number, and the builder gives it
the double that this number is rounded to: a number from zero on, in the order of the rationals,
and never a fault.  Zeros at the ends of a literal and the scripts of its digits do not change the
rational number. -/
theorem build_literal (limit depth : Int) :
    (∀ text word : List Char, Terminal.number.take? text = some word →
      ∃! exact, Spells word exact) ∧
    (∀ (word : List Char) (exact : ℚ), Spells word exact →
      ∃ x, build limit depth (.token .number word) = .ok (number x) ∧ IsRounded exact x ∧
        Double.isNegative x = false ∧ x.isNaN = false) ∧
    (∀ (word word' : List Char) (exact exact' : ℚ) (x y : Float),
      Spells word exact → build limit depth (.token .number word) = .ok (number x) →
        Spells word' exact' → build limit depth (.token .number word') = .ok (number y) →
          (exact ≤ exact' → x ≤ y) ∧ (exact = exact' → x = y)) ∧
    ∀ (word : List Char) (exact : ℚ), Spells word exact →
      Spells (word.map Text.asciiForm) exact ∧
        ∀ c : Char, Text.decimalDigit? c = some 0 →
          Spells (c :: word) exact ∧ ('.' ∈ word → Spells (word ++ [c]) exact) ∧
            ('.' ∉ word → Spells (word ++ ['.', c]) exact) := by
  have built (word : List Char) :
      build limit depth (.token .number word) = .ok (number (literalValue word)) := by
    rw [build]
  refine ⟨?_, ?_, ?_, ?_⟩
  · intro text word taken
    obtain ⟨exact, spells⟩ := spells_iff.mp (Terminal.spells_of_take?_eq_some taken).1
    exact ⟨exact, spells, fun _ spells' => spells'.unique spells⟩
  · intro word exact spells
    have rounded := isRounded_literalValue spells
    exact ⟨_, built word, rounded, rounded.isNegative_eq spells.nonneg, rounded.isNaN_eq⟩
  · intro word word' exact exact' x y spells evaluated spells' evaluated'
    obtain rfl : literalValue word = x := by simpa [built] using evaluated
    obtain rfl : literalValue word' = y := by simpa [built] using evaluated'
    have rounded := isRounded_literalValue spells
    have rounded' := isRounded_literalValue spells'
    refine ⟨rounded.mono rounded', ?_⟩
    rintro rfl
    exact rounded.unique rounded'
  · intro word exact spells
    refine ⟨spells.in_ascii, fun c isZero => ⟨spells.leading_zero isZero, ?_, ?_⟩⟩
    · intro point
      exact spells.trailing_zero point isZero
    · intro integer
      exact spells.zero_fraction integer isZero

/-- The digits of `2 ^ 53 + 1` in several scripts, behind a zero. -/
def tieDigits : List Char :=
  "٠9007199254740९९٣".toList

def tie : List Char :=
  tieDigits ++ '.' :: ['๐']

def behindTie : List Char :=
  tieDigits ++ '.' :: ['5']

/-- The double `2 ^ 53`. -/
def evenNeighbour : Float := .ofBits 0x4340000000000000

/-- The double `2 ^ 53 + 2`. -/
def oddNeighbour : Float := .ofBits 0x4340000000000001

/-- In the middle between two doubles, and a little behind it. -/
theorem build_tie :
    let exact : ℚ := 9007199254740993
    Terminal.number.take? (tie ++ ['%']) = some tie ∧ Text.decimalDigit? '𝟘' = some 0 ∧
      Spells tie exact ∧ Spells behindTie (exact + 1 / 2) ∧ (∃! spelled, Spells tie spelled) ∧
      build 0 0 (.token .number tie) = .ok (number evenNeighbour) ∧
      build 0 0 (.token .number behindTie) = .ok (number oddNeighbour) ∧
      IsRounded exact evenNeighbour ∧ evenNeighbour ≤ oddNeighbour ∧
      Spells (tie.map Text.asciiForm) exact ∧ Spells ('𝟘' :: tie) exact ∧
      Spells (tie ++ ['𝟘']) exact ∧ Spells (tieDigits ++ ['.', '𝟘']) exact := by
  intro exact
  have isDigits (word : List Char) (nonempty : word ≠ [])
      (inside : word.all Text.isDecimalDigit = true) : IsDigits word :=
    ⟨nonempty, List.all_eq_true.mp inside⟩
  have digits : IsDigits tieDigits := isDigits _ (by decide) (by decide +kernel)
  have integer : Spells tieDigits exact := by
    have same : wholeValue tieDigits = exact := by decide +kernel
    rw [← same]
    exact .integer digits
  have middle : Spells tie exact := by
    have same : wholeValue tieDigits + fractionValue ['๐'] = exact := by decide +kernel
    rw [← same]
    exact .decimal digits (isDigits _ (by decide) (by decide +kernel))
  have behind : Spells behindTie (exact + 1 / 2) := by
    have same : wholeValue tieDigits + fractionValue ['5'] = exact + 1 / 2 := by
      decide +kernel
    rw [← same]
    exact .decimal digits (isDigits _ (by decide) (by decide +kernel))
  have taken : Terminal.number.take? (tie ++ ['%']) = some tie := by decide +kernel
  have isZero : Text.decimalDigit? '𝟘' = some 0 := by decide
  have even : literalValue tie = evenNeighbour := by decide +kernel
  have odd : literalValue behindTie = oddNeighbour := by decide +kernel
  obtain ⟨unique, built, ordered, unchanged⟩ := build_literal 0 0
  obtain ⟨x, evaluated, rounded, -⟩ := built tie exact middle
  obtain ⟨y, evaluated', -⟩ := built behindTie _ behind
  obtain rfl : evenNeighbour = x := by simpa [build, even] using evaluated
  obtain rfl : oddNeighbour = y := by simpa [build, odd] using evaluated'
  have order := (ordered _ _ _ _ _ _ middle evaluated behind evaluated').1 (by decide +kernel)
  obtain ⟨ascii, zeros⟩ := unchanged tie exact middle
  obtain ⟨leading, trailing, -⟩ := zeros '𝟘' isZero
  have fraction := ((unchanged tieDigits exact integer).2 '𝟘' isZero).2.2
  exact ⟨taken, isZero, middle, behind, unique _ _ taken, evaluated, evaluated', rounded, order,
    ascii, leading, trailing (by decide +kernel), fraction (by decide +kernel)⟩

end Reckon.Formula
