import Mathlib.Data.List.DropRight
import Mathlib.Data.Nat.Digits.Lemmas
import Mathlib.Tactic.IntervalCases
import Reckon.Argument
import Reckon.Proofs.Grammar.Word

/-!
# Names of arguments and indices

The letters of a name are the base-16 digits of its index, the least significant one first.  Every
index has one shortest name, and its other names are that name with further letters `A` behind it
(`exists_padding`); so a name is told by its index and its length, and decoding and encoding undo
each other (`decode_encode_inverse`).
-/

namespace Reckon.Argument

/-! ## Letters and digits -/

/-- The letters in the order of their digits. -/
def alphabet : List Char :=
  "ABCDEFGHIJKLMNOP".toList

/-- The digit that a letter stands for. -/
def digit (letter : Char) : Nat :=
  alphabet.idxOf letter

theorem length_alphabet : alphabet.length = base :=
  rfl

theorem letter_eq {value : Nat} (small : value < base) :
    letter value = alphabet.get ⟨value, by rwa [length_alphabet]⟩ := by
  simp only [base] at small
  interval_cases value <;> rfl

theorem digit_lt {c : Char} (listed : c ∈ alphabet) : digit c < base :=
  List.idxOf_lt_length_iff.mpr listed

theorem letter_digit {c : Char} (listed : c ∈ alphabet) : letter (digit c) = c := by
  rw [letter_eq (digit_lt listed)]
  exact List.getElem_idxOf _

theorem letter_mem {value : Nat} (small : value < base) : letter value ∈ alphabet := by
  rw [letter_eq small]
  exact List.getElem_mem _

theorem digit_letter {value : Nat} (small : value < base) : digit (letter value) = value := by
  simp only [base] at small
  interval_cases value <;> rfl

theorem letterValue?_of_mem {c : Char} (listed : c ∈ alphabet) :
    letterValue? c = some (digit c) := by
  rw [← letter_digit listed]
  have small := digit_lt listed
  generalize digit c = value at small ⊢
  simp only [base] at small
  interval_cases value <;> rfl

theorem mem_alphabet_of_isArgumentLetter {c : Char}
    (inside : Grammar.isArgumentLetter c = true) : c ∈ alphabet := by
  have range := Grammar.toNat_of_isArgumentLetter inside
  have start : 'A'.toNat = 0x41 := rfl
  have small : c.toNat - 'A'.toNat < base := by
    simp only [base]
    omega
  have same : letter (c.toNat - 'A'.toNat) = c := by
    rw [letter, Nat.add_sub_cancel' (by omega), Char.ofNat_toNat]
  rw [← same]
  exact letter_mem small

theorem letterValue?_of_not_mem {c : Char} (unlisted : c ∉ alphabet) : letterValue? c = none := by
  rw [letterValue?, if_neg]
  intro inside
  exact unlisted (mem_alphabet_of_isArgumentLetter inside)

/-! ## Decoding -/

/-- The index that letters spell as digits in base 16. -/
def value (letters : List Char) : Nat :=
  Nat.ofDigits base (letters.map digit)

theorem value_cons (c : Char) (letters : List Char) :
    value (c :: letters) = digit c + base * value letters := by
  rw [value, List.map_cons, Nat.ofDigits_cons]
  rfl

/-- Letters are decoded into the index that they spell, unless one is none: then the first such
character is named. -/
theorem decodeLetters_eq (letters : List Char) :
    decodeLetters letters =
      match letters.find? (· ∉ alphabet) with
      | some c => .error c
      | none => .ok (value letters) := by
  induction letters with
  | nil => rfl
  | cons c letters inductionHypothesis =>
      by_cases listed : c ∈ alphabet
      · rw [decodeLetters, letterValue?_of_mem listed, inductionHypothesis,
          List.find?_cons_of_neg (by simpa using listed), value_cons]
        cases letters.find? (· ∉ alphabet) <;> rfl
      · rw [decodeLetters, letterValue?_of_not_mem listed,
          List.find?_cons_of_pos (by simpa using listed)]

/-- The leftmost letter that is not of the alphabet is the one reported. -/
theorem decode_of_ne_empty {name : String} (filled : name ≠ "") :
    decode name =
      match name.toList.find? (· ∉ alphabet) with
      | some c => .error (.badLetter c name)
      | none => .ok (value name.toList) := by
  have nonempty : ¬name.isEmpty = true := by
    rw [String.isEmpty_iff]
    exact filled
  rw [decode, if_neg nonempty, decodeLetters_eq]
  cases name.toList.find? (· ∉ alphabet) <;> rfl

/-- A word that names an argument: some letters and nothing else. -/
def IsName (name : String) : Prop :=
  name ≠ "" ∧ ∀ c ∈ name.toList, c ∈ alphabet

instance (name : String) : Decidable (IsName name) :=
  decidable_of_iff (name ≠ "" ∧ name.toList.all (· ∈ alphabet)) <| by
    rw [IsName, List.all_eq_true]
    simp only [decide_eq_true_eq]

theorem decode_of_isName {name : String} (isName : IsName name) :
    decode name = .ok (value name.toList) := by
  have none : name.toList.find? (· ∉ alphabet) = none := by
    rw [List.find?_eq_none]
    intro c member
    simpa using isName.2 c member
  rw [decode_of_ne_empty isName.1, none]

/-- Names and nothing else stand for indices, and for one index each. -/
theorem decode_eq_ok_iff {name : String} {index : Nat} :
    decode name = .ok index ↔ IsName name ∧ value name.toList = index := by
  constructor
  · intro decoded
    have filled : name ≠ "" := by
      rintro rfl
      cases decoded
    rw [decode_of_ne_empty filled] at decoded
    cases found : name.toList.find? (· ∉ alphabet) with
    | some c =>
        rw [found] at decoded
        cases decoded
    | none =>
        rw [found] at decoded
        cases decoded
        rw [List.find?_eq_none] at found
        exact ⟨⟨filled, fun c member => by simpa using found c member⟩, rfl⟩
  · rintro ⟨isName, rfl⟩
    exact decode_of_isName isName

theorem decode_eq_badLetter_iff {name : String} {c : Char} :
    decode name = .error (.badLetter c name) ↔ name.toList.find? (· ∉ alphabet) = some c := by
  by_cases filled : name = ""
  · subst filled
    constructor
    · intro decoded
      cases decoded
    · intro found
      cases found
  · rw [decode_of_ne_empty filled]
    cases name.toList.find? (· ∉ alphabet) <;> simp

/-! ## Encoding -/

theorem encodeLetters_of_lt {index : Nat} (small : index < base) :
    encodeLetters index = [letter index] := by
  rw [encodeLetters, if_pos small]

theorem encodeLetters_of_le {index : Nat} (large : base ≤ index) :
    encodeLetters index = letter (index % base) :: encodeLetters (index / base) := by
  rw [encodeLetters, if_neg (Nat.not_lt_of_le large)]

theorem base_pos : 0 < base := by
  decide

/-- The number of letters of the shortest name of an index: of its digits in base 16, but at least
one. -/
def needed (index : Nat) : Nat :=
  max 1 (Nat.digits base index).length

/-- An index is spelled in as many letters as it needs. -/
theorem length_encodeLetters (index : Nat) : (encodeLetters index).length = needed index := by
  induction index using Nat.strong_induction_on with
  | _ index inductionHypothesis =>
  by_cases small : index < base
  · rw [encodeLetters_of_lt small, needed]
    rcases Nat.eq_zero_or_pos index with rfl | positive
    · rfl
    · rw [Nat.digits_of_lt base index (Nat.ne_of_gt positive) small]
      rfl
  · have large : base ≤ index := Nat.le_of_not_lt small
    have positive : 0 < index := Nat.lt_of_lt_of_le base_pos large
    have shorter : index / base < index := Nat.div_lt_self positive (by decide)
    have rest : Nat.digits base (index / base) ≠ [] :=
      Nat.digits_ne_nil_iff_ne_zero.mpr (Nat.ne_of_gt (Nat.div_pos large base_pos))
    have some := List.length_pos_of_ne_nil rest
    rw [encodeLetters_of_le large, List.length_cons, inductionHypothesis _ shorter, needed, needed,
      Nat.digits_def' (by decide) positive, List.length_cons]
    omega

/-- What is spelled stands for the index again. -/
theorem encodeLetters_spells (index : Nat) :
    value (encodeLetters index) = index ∧ ∀ c ∈ encodeLetters index, c ∈ alphabet := by
  induction index using Nat.strong_induction_on with
  | _ index inductionHypothesis =>
  by_cases small : index < base
  · rw [encodeLetters_of_lt small]
    refine ⟨?_, fun c member => ?_⟩
    · rw [value_cons, digit_letter small]
      rfl
    · rw [List.mem_singleton.mp member]
      exact letter_mem small
  · have large : base ≤ index := Nat.le_of_not_lt small
    have positive : 0 < index := Nat.lt_of_lt_of_le base_pos large
    have rest : index % base < base := Nat.mod_lt index base_pos
    obtain ⟨spelled, listed⟩ :=
      inductionHypothesis (index / base) (Nat.div_lt_self positive (by decide))
    rw [encodeLetters_of_le large]
    refine ⟨?_, List.forall_mem_cons.mpr ⟨letter_mem rest, listed⟩⟩
    rw [value_cons, digit_letter rest, spelled, Nat.mod_add_div]

/-- Letters are the shortest name of what they spell, with letters `A` behind it. -/
theorem exists_padding {letters : List Char} (filled : letters ≠ [])
    (listed : ∀ c ∈ letters, c ∈ alphabet) :
    ∃ count, letters = encodeLetters (value letters) ++ List.replicate count 'A' := by
  induction letters with
  | nil => exact absurd rfl filled
  | cons c letters inductionHypothesis =>
      obtain ⟨first, others⟩ := List.forall_mem_cons.mp listed
      have small := digit_lt first
      rw [value_cons]
      by_cases last : value letters = 0
      · -- the letters behind the first one are all `A`
        have alone : encodeLetters (digit c + base * value letters) = [c] := by
          rw [last, Nat.mul_zero, Nat.add_zero, encodeLetters_of_lt small, letter_digit first]
        rw [alone]
        cases letters with
        | nil => exact ⟨0, rfl⟩
        | cons d letters =>
            obtain ⟨count, split⟩ := inductionHypothesis (by simp) others
            have zero : encodeLetters 0 = ['A'] := encodeLetters_of_lt base_pos
            rw [last, zero] at split
            exact ⟨count + 1, by rw [split]; rfl⟩
      · have nonempty : letters ≠ [] := by
          rintro rfl
          exact last rfl
        obtain ⟨count, split⟩ := inductionHypothesis nonempty others
        have large : base ≤ digit c + base * value letters := by
          have := Nat.le_mul_of_pos_right base (Nat.pos_of_ne_zero last)
          omega
        have front : (digit c + base * value letters) % base = digit c := by
          rw [Nat.add_mul_mod_self_left, Nat.mod_eq_of_lt small]
        have behind : (digit c + base * value letters) / base = value letters := by
          rw [Nat.add_mul_div_left _ _ base_pos, Nat.div_eq_of_lt small, Nat.zero_add]
        refine ⟨count, ?_⟩
        rw [encodeLetters_of_le large, front, behind, letter_digit first, List.cons_append, ← split]

/-! ## Letters at the end -/

/-- The letters without the letters `A` at their end. -/
def significant (letters : List Char) : List Char :=
  letters.rdropWhile (· = 'A')

theorem significant_append_replicate (letters : List Char) (count : Nat) :
    significant (letters ++ List.replicate count 'A') = significant letters := by
  induction count with
  | zero => rw [List.replicate_zero, List.append_nil]
  | succ count inductionHypothesis =>
      rw [List.replicate_succ', ← List.append_assoc, significant,
        List.rdropWhile_concat_pos _ _ _ rfl]
      exact inductionHypothesis

theorem value_append_replicate (letters : List Char) (count : Nat) :
    value (letters ++ List.replicate count 'A') = value letters := by
  have zero : digit 'A' = 0 := rfl
  rw [value, List.map_append, List.map_replicate, zero, Nat.ofDigits_append_replicate_zero]
  rfl

/-- The letter for zero adds nothing at the end of a name. -/
theorem value_significant (letters : List Char) : value (significant letters) = value letters := by
  have padding : letters.rtakeWhile (· = 'A') =
      List.replicate (letters.rtakeWhile (· = 'A')).length 'A' := by
    refine List.eq_replicate_iff.mpr ⟨rfl, fun c member => ?_⟩
    simpa using List.mem_rtakeWhile_imp member
  have split : significant letters ++ letters.rtakeWhile (· = 'A') = letters :=
    List.rdropWhile_append_rtakeWhile
  rw [padding] at split
  rw [← value_append_replicate (significant letters), split]

/-- Two words spell the same index if they only differ in the letters `A` at their end. -/
theorem value_eq_iff {one other : List Char} (filled : one ≠ []) (filled' : other ≠ [])
    (listed : ∀ c ∈ one, c ∈ alphabet) (listed' : ∀ c ∈ other, c ∈ alphabet) :
    value one = value other ↔ significant one = significant other := by
  constructor
  · intro same
    obtain ⟨count, split⟩ := exists_padding filled listed
    obtain ⟨count', split'⟩ := exists_padding filled' listed'
    rw [split, split', same, significant_append_replicate, significant_append_replicate]
  · intro same
    rw [← value_significant one, same, value_significant]

/-! ## Names of an index -/

theorem encode_none (index : Nat) :
    encode index none = .ok (String.ofList (encodeLetters index)) := by
  rw [encode, if_neg (Int.not_lt.mpr (Int.natCast_nonneg index)), Int.toNat_natCast]

/-- With a width the spelling is padded, or refused where it would have to be cut. -/
theorem encode_some (index : Nat) (width : Int) :
    encode index (some width) =
      if width < needed index then
        .error (.tooNarrow (needed index) width)
      else
        .ok (String.ofList (encodeLetters index ++
          List.replicate (width.toNat - needed index) 'A')) := by
  have first : letter 0 = 'A' := rfl
  rw [encode, if_neg (Int.not_lt.mpr (Int.natCast_nonneg index)), Int.toNat_natCast]
  simp only [length_encodeLetters, first]

theorem encode_of_neg {index : Int} (negative : index < 0) (width : Option Int) :
    encode index width = .error (.negativeIndex index) := by
  rw [encode, if_pos negative]

theorem needed_pos (index : Nat) : 0 < needed index :=
  Nat.lt_of_lt_of_le Nat.zero_lt_one (Nat.le_max_left _ _)

/-- The shortest name of an index with some letters `A` behind it is a name of that index. -/
theorem isName_padded (index count : Nat) :
    let name := String.ofList (encodeLetters index ++ List.replicate count 'A')
    IsName name ∧ value name.toList = index ∧ name.length = needed index + count := by
  obtain ⟨spelled, listed⟩ := encodeLetters_spells index
  have length := length_encodeLetters index
  have positive := needed_pos index
  refine ⟨⟨?_, fun c member => ?_⟩, ?_, ?_⟩
  · intro empty
    have none := congrArg String.length empty
    simp only [String.length_ofList, List.length_append, length] at none
    have zero : "".length = 0 := rfl
    omega
  · rw [String.toList_ofList, List.mem_append] at member
    rcases member with front | padding
    · exact listed c front
    · rw [List.eq_of_mem_replicate padding]
      exact letter_mem base_pos
  · rw [String.toList_ofList, value_append_replicate, spelled]
  · rw [String.length_ofList, List.length_append, length, List.length_replicate]

/-- An index with enough room has a name, which stands for it and fills the width. -/
theorem exists_encode {index : Nat} {width : Option Int}
    (wide : ∀ columns ∈ width, (needed index : Int) ≤ columns) :
    ∃ name, encode index width = .ok name ∧ IsName name ∧ decode name = .ok index ∧
      (name.length : Int) = width.getD (needed index) := by
  cases width with
  | none =>
      obtain ⟨isName, spelled, length⟩ := isName_padded index 0
      rw [List.replicate_zero, List.append_nil] at isName spelled length
      refine ⟨_, encode_none index, isName, decode_eq_ok_iff.mpr ⟨isName, spelled⟩, ?_⟩
      rw [length]
      rfl
  | some columns =>
      have enough := wide columns rfl
      obtain ⟨isName, spelled, length⟩ := isName_padded index (columns.toNat - needed index)
      refine ⟨_, ?_, isName, decode_eq_ok_iff.mpr ⟨isName, spelled⟩, ?_⟩
      · rw [encode_some, if_neg (Int.not_lt.mpr enough)]
      · rw [length, Option.getD_some]
        omega

/-- Every other name of an index is longer than the shortest one. -/
theorem longer_of_decode {index : Nat} {shortest other : String}
    (encoded : encode index none = .ok shortest) (decoded : decode other = .ok index)
    (different : other ≠ shortest) :
    shortest.length < other.length ∧
      ∃ count, other = shortest ++ String.ofList (List.replicate count 'A') := by
  rw [encode_none] at encoded
  obtain rfl := Except.ok.inj encoded
  obtain ⟨⟨filled, listed⟩, spelled⟩ := decode_eq_ok_iff.mp decoded
  obtain ⟨count, split⟩ := exists_padding (mt String.toList_eq_nil_iff.mp filled) listed
  rw [spelled] at split
  have same : other = String.ofList (encodeLetters index) ++
      String.ofList (List.replicate count 'A') := by
    rw [← String.ofList_append, ← split, String.ofList_toList]
  have positive : count ≠ 0 := by
    rintro rfl
    apply different
    rw [same, List.replicate_zero, String.ofList_nil, String.append_empty]
  refine ⟨?_, count, same⟩
  rw [same, String.length_append, String.length_ofList, String.length_ofList, List.length_replicate]
  omega

/-- A name is the spelling of its index in as many letters as it has. -/
theorem encode_of_isName {name : String} (isName : IsName name) :
    encode (value name.toList) (some name.length) = .ok name := by
  obtain ⟨count, split⟩ :=
    exists_padding (mt String.toList_eq_nil_iff.mp isName.1) isName.2
  have length := congrArg List.length split
  rw [List.length_append, length_encodeLetters, List.length_replicate,
    String.length_toList] at length
  have fits : ¬(name.length : Int) < needed (value name.toList) := by omega
  have rest : (name.length : Int).toNat - needed (value name.toList) = count := by omega
  rw [encode_some, if_neg fits, rest, ← split, String.ofList_toList]

/-! ## What has no counterpart -/

theorem exists_decode_error_iff {name : String} :
    (∃ fault, decode name = .error fault) ↔ ¬IsName name := by
  constructor
  · rintro ⟨fault, failed⟩ isName
    rw [decode_of_isName isName] at failed
    cases failed
  · intro noName
    cases decoded : decode name with
    | error fault => exact ⟨fault, rfl⟩
    | ok index => exact absurd (decode_eq_ok_iff.mp decoded).1 noName

/-- Negative indices and too narrow widths are all that cannot be spelled. -/
theorem exists_encode_error_iff {index : Int} {width : Option Int} :
    (∃ fault, encode index width = .error fault) ↔
      index < 0 ∨ ∃ columns ∈ width, columns < needed index.toNat := by
  constructor
  · rintro ⟨fault, failed⟩
    by_contra fits
    obtain ⟨natural, wide⟩ := not_or.mp fits
    obtain ⟨index, rfl⟩ := Int.eq_ofNat_of_zero_le (Int.not_lt.mp natural)
    have wide' : ∀ columns ∈ width, (needed index : Int) ≤ columns := by
      intro columns given
      by_contra narrow
      exact wide ⟨columns, given, Int.not_le.mp narrow⟩
    obtain ⟨name, encoded, -⟩ := exists_encode wide'
    rw [encoded] at failed
    cases failed
  · rintro (negative | ⟨columns, given, narrow⟩)
    · exact ⟨_, encode_of_neg negative width⟩
    · obtain rfl : width = some columns := given
      by_cases negative : index < 0
      · exact ⟨_, encode_of_neg negative _⟩
      · obtain ⟨index, rfl⟩ := Int.eq_ofNat_of_zero_le (Int.not_lt.mp negative)
        rw [Int.toNat_natCast] at narrow
        exact ⟨_, by rw [encode_some, if_pos narrow]⟩

/-! ## Names and indices -/

/-- A name is decoded into the number whose base-16 digits its letters are, the least significant
one first, and is encoded again from this number and its length.  An index has a name of every
length from the needed one on; without a length it is the shortest, and the other names of the
index have letters `A` behind it.  Only what is no name is not decoded, with the first character
that is no letter, and only a negative index or one that needs more letters is not encoded. -/
theorem decode_encode_inverse :
    (∀ name, IsName name → ∃ index : Nat, index = Nat.ofDigits base (name.toList.map digit) ∧
      decode name = .ok index ∧ encode index (some name.length) = .ok name) ∧
    (∀ (index : Nat) (width : Option Int), (∀ columns ∈ width, (needed index : Int) ≤ columns) →
      ∃ name, encode index width = .ok name ∧ IsName name ∧ decode name = .ok index ∧
        (name.length : Int) = width.getD (needed index)) ∧
    (∀ (index : Nat) (shortest other : String), encode index none = .ok shortest →
      decode other = .ok index → other ≠ shortest →
        shortest.length < other.length ∧
        ∃ count, other = shortest ++ String.ofList (List.replicate count 'A')) ∧
    (∀ one other, IsName one → IsName other →
      (decode one = decode other ↔ significant one.toList = significant other.toList)) ∧
    (∀ name, (∃ fault, decode name = .error fault) ↔ ¬IsName name) ∧
    decode "" = .error .noLetters ∧
    (∀ name c, decode name = .error (.badLetter c name) ↔
      name.toList.find? (· ∉ alphabet) = some c) ∧
    ∀ (index : Int) (width : Option Int), (∃ fault, encode index width = .error fault) ↔
      index < 0 ∨ ∃ columns ∈ width, columns < needed index.toNat := by
  refine ⟨fun name isName => ?_, fun index width wide => ?_,
    fun index shortest other encoded decoded different => ?_, fun one other isName isName' => ?_,
    fun name => ?_, rfl, fun name c => ?_, fun index width => ?_⟩
  · exact ⟨value name.toList, rfl, decode_of_isName isName, encode_of_isName isName⟩
  · exact exists_encode wide
  · exact longer_of_decode encoded decoded different
  · rw [decode_of_isName isName, decode_of_isName isName', Except.ok.injEq]
    exact value_eq_iff (mt String.toList_eq_nil_iff.mp isName.1)
      (mt String.toList_eq_nil_iff.mp isName'.1) isName.2 isName'.2
  · exact exists_decode_error_iff
  · exact decode_eq_badLetter_iff
  · exact exists_encode_error_iff

/-- `BAA` is a name of the index 1 that has two letters more than needed. -/
theorem decode_encode_padded :
    IsName "BAA" ∧ decode "BAA" = .ok 1 ∧ encode 1 (some 3) = .ok "BAA" ∧
      encode 1 none = .ok "B" ∧ "B".length < "BAA".length ∧ decode "BAA" = decode "B" ∧
      (∃ name, encode 1 (some 2) = .ok name ∧ decode name = .ok 1 ∧ name.length = 2) ∧
      decode "BAD Q" = .error (.badLetter ' ' "BAD Q") := by
  have isName : IsName "BAA" := by decide
  have isName' : IsName "B" := by decide
  obtain ⟨inverse, wide, longer, equal, -, -, first, -⟩ := decode_encode_inverse
  obtain ⟨index, spelled, decoded, encoded⟩ := inverse "BAA" isName
  obtain rfl : index = 1 := spelled.trans (by decide)
  have shortest : encode 1 none = .ok "B" := by
    have letters : encodeLetters 1 = ['B'] := encodeLetters_of_lt (by decide)
    exact (encode_none 1).trans (by rw [letters])
  obtain ⟨shorter, -⟩ := longer 1 "B" "BAA" shortest decoded (by decide)
  obtain ⟨name, padded, -, undone, length⟩ := wide 1 (some 2) (by decide)
  refine ⟨isName, decoded, encoded, shortest, shorter, ?_, ⟨name, padded, undone, ?_⟩, ?_⟩
  · exact (equal "BAA" "B" isName isName').mpr (by decide)
  · exact Int.ofNat.inj length
  · exact (first "BAD Q" ' ').mpr (by decide)

end Reckon.Argument
