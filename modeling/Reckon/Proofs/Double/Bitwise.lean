import Reckon.Proofs.Double.Truncation

/-!
# Bitwise operations as operations on integers

The words of 64 bits behind the bitwise operators stand for integers in two's complement, and the
operators give the double nearest to the operation on these integers (`Double.isNearest_onDoubles`).
Integers of 54 bits are doubles and stay so under every bitwise operation, so that nothing is
rounded among them (`Double.Carries`).
-/

namespace Reckon

variable {width : Nat} {x y : Float}

namespace Double

/-! ## Integers in two's complement -/

/-- Integers of any size are told apart by their bits. -/
theorem eq_of_testBit_eq {first second : Int}
    (same : ∀ index, first.testBit index = second.testBit index) : first = second := by
  have apart (m n : Nat) : ∃ index, (m : Int).testBit index ≠ (Int.negSucc n).testBit index := by
    have small : m < 2 ^ (m + n) := lt_of_lt_of_le Nat.lt_two_pow_self
      (Nat.pow_le_pow_right (by decide) (Nat.le_add_right m n))
    have small' : n < 2 ^ (m + n) := lt_of_lt_of_le Nat.lt_two_pow_self
      (Nat.pow_le_pow_right (by decide) (Nat.le_add_left n m))
    refine ⟨m + n, ?_⟩
    change Nat.testBit m (m + n) ≠ !Nat.testBit n (m + n)
    rw [Nat.testBit_lt_two_pow small, Nat.testBit_lt_two_pow small']
    exact Bool.false_ne_true
  cases first with
  | ofNat m =>
      cases second with
      | ofNat n => exact congrArg Int.ofNat (Nat.eq_of_testBit_eq same)
      | negSucc n =>
          obtain ⟨index, distinct⟩ := apart m n
          exact absurd (same index) distinct
  | negSucc m =>
      cases second with
      | ofNat n =>
          obtain ⟨index, distinct⟩ := apart n m
          exact absurd (same index).symm distinct
      | negSucc n =>
          apply congrArg Int.negSucc
          apply Nat.eq_of_testBit_eq
          intro index
          exact Bool.not_inj (same index)

/-- Behind its own bits a word repeats its sign. -/
theorem testBit_toInt (word : BitVec width) (index : Nat) :
    word.toInt.testBit index = if index < width then word.getLsbD index else word.msb := by
  rw [BitVec.toInt_eq_msb_cond]
  cases negative : word.msb with
  | false =>
      change word.getLsbD index = _
      by_cases inside : index < width
      · rw [if_pos inside]
      · rw [if_neg inside, BitVec.getLsbD_of_ge word index (Nat.not_lt.mp inside)]
  | true =>
      have turned : (word.toNat - (2 ^ width : Nat) : Int) = Int.negSucc (~~~word).toNat := by
        rw [BitVec.toNat_not, Int.negSucc_eq]
        have small := word.isLt
        omega
      rw [if_pos rfl, turned]
      change (!(~~~word).getLsbD index) = _
      rw [BitVec.getLsbD_not]
      by_cases inside : index < width
      · rw [if_pos inside, decide_eq_true inside, Bool.true_and, Bool.not_not]
      · rw [if_neg inside, decide_eq_false inside]
        rfl

end Double

/-! ## The operators -/

/-- A bitwise operator between two operands. -/
inductive BitOperator where
  | and
  | or
  | xor
  deriving DecidableEq, Repr

namespace BitOperator

open Double

def onBits : BitOperator → Bool → Bool → Bool
  | and => Bool.and
  | or => Bool.or
  | xor => Bool.xor

def onWords : BitOperator → BitVec width → BitVec width → BitVec width
  | and => (· &&& ·)
  | or => (· ||| ·)
  | xor => (· ^^^ ·)

/-- The operation on integers in two's complement, without a bound. -/
def onIntegers : BitOperator → Int → Int → Int
  | and => Int.land
  | or => Int.lor
  | xor => Int.xor

def onDoubles : BitOperator → Float → Float → Float
  | and => bitAnd
  | or => bitOr
  | xor => bitXor

variable (operator : BitOperator)

theorem testBit_onIntegers (first second : Int) (index : Nat) :
    (operator.onIntegers first second).testBit index =
      operator.onBits (first.testBit index) (second.testBit index) := by
  cases operator with
  | and => exact Int.testBit_land first second index
  | or => exact Int.testBit_lor first second index
  | xor => exact Int.testBit_lxor first second index

theorem getLsbD_onWords (first second : BitVec width) (index : Nat) :
    (operator.onWords first second).getLsbD index =
      operator.onBits (first.getLsbD index) (second.getLsbD index) := by
  cases operator with
  | and => exact BitVec.getLsbD_and
  | or => exact BitVec.getLsbD_or
  | xor => exact BitVec.getLsbD_xor

theorem msb_onWords (first second : BitVec width) :
    (operator.onWords first second).msb = operator.onBits first.msb second.msb := by
  cases operator with
  | and => exact BitVec.msb_and
  | or => exact BitVec.msb_or
  | xor => exact BitVec.msb_xor

/-- Words are operated on as the integers they stand for. -/
theorem toInt_onWords (first second : BitVec width) :
    (operator.onWords first second).toInt = operator.onIntegers first.toInt second.toInt := by
  apply eq_of_testBit_eq
  intro index
  rw [testBit_onIntegers, testBit_toInt, testBit_toInt, testBit_toInt]
  by_cases inside : index < width
  · rw [if_pos inside, if_pos inside, if_pos inside, getLsbD_onWords]
  · rw [if_neg inside, if_neg inside, if_neg inside, msb_onWords]

theorem onIntegers_assoc (first second third : Int) :
    operator.onIntegers (operator.onIntegers first second) third =
      operator.onIntegers first (operator.onIntegers second third) := by
  apply eq_of_testBit_eq
  intro index
  rw [testBit_onIntegers, testBit_onIntegers, testBit_onIntegers, testBit_onIntegers]
  cases operator with
  | and => exact Bool.and_assoc _ _ _
  | or => exact Bool.or_assoc _ _ _
  | xor => exact Bool.xor_assoc _ _ _

theorem lnot_and (first second : Int) :
    Int.lnot (and.onIntegers first second) =
      or.onIntegers (Int.lnot first) (Int.lnot second) := by
  apply eq_of_testBit_eq
  intro index
  rw [Int.testBit_lnot, testBit_onIntegers, testBit_onIntegers, Int.testBit_lnot, Int.testBit_lnot]
  exact Bool.not_and _ _

theorem lnot_or (first second : Int) :
    Int.lnot (or.onIntegers first second) =
      and.onIntegers (Int.lnot first) (Int.lnot second) := by
  apply eq_of_testBit_eq
  intro index
  rw [Int.testBit_lnot, testBit_onIntegers, testBit_onIntegers, Int.testBit_lnot, Int.testBit_lnot]
  exact Bool.not_or _ _

/-- Integers of one width stay within it. -/
theorem onIntegers_within {bound : Nat} {first second : Int}
    (above : -2 ^ bound ≤ first) (below : first < 2 ^ bound)
    (above' : -2 ^ bound ≤ second) (below' : second < 2 ^ bound) :
    -2 ^ bound ≤ operator.onIntegers first second ∧
      operator.onIntegers first second < 2 ^ bound := by
  have word : (BitVec.ofInt (bound + 1) first).toInt = first :=
    BitVec.toInt_ofInt_eq_self bound.succ_pos above below
  have word' : (BitVec.ofInt (bound + 1) second).toInt = second :=
    BitVec.toInt_ofInt_eq_self bound.succ_pos above' below'
  rw [← word, ← word', ← toInt_onWords]
  exact ⟨BitVec.le_toInt _, BitVec.toInt_lt⟩

end BitOperator

namespace Double

/-! ## Operations on doubles -/

theorem truncate_within (x : Float) : -2 ^ 63 ≤ truncate x ∧ truncate x < 2 ^ 63 :=
  ⟨leastWord_le_truncate x, Int.lt_of_le_sub_one (truncate_le_greatestWord x)⟩

theorem toInt_truncate (x : Float) : (BitVec.ofInt 64 (truncate x)).toInt = truncate x :=
  BitVec.toInt_ofInt_eq_self (by decide) (truncate_within x).1 (truncate_within x).2

/-- The operation of the machine on words of 64 bits is that of unbounded integers. -/
theorem onDoubles_eq (operator : BitOperator) (x y : Float) :
    operator.onDoubles x y = ofInt (operator.onIntegers (truncate x) (truncate y)) := by
  have words : operator.onDoubles x y =
      ofInt (operator.onWords (.ofInt 64 (truncate x)) (.ofInt 64 (truncate y))).toInt := by
    cases operator with
    | and => rfl
    | or => rfl
    | xor => rfl
  rw [words, operator.toInt_onWords, toInt_truncate, toInt_truncate]

theorem toInt_complement (word : BitVec width) (positive : 0 < width) :
    (~~~word).toInt = Int.lnot word.toInt := by
  apply eq_of_testBit_eq
  intro index
  rw [Int.testBit_lnot, testBit_toInt, testBit_toInt, BitVec.getLsbD_not, BitVec.msb_not]
  by_cases inside : index < width
  · rw [if_pos inside, if_pos inside, decide_eq_true inside, Bool.true_and]
  · rw [if_neg inside, if_neg inside, decide_eq_true positive, Bool.true_and]

/-- The complement of a word is that of the unbounded integer, which has no sign bit of its own. -/
theorem bitNot_eq (x : Float) : bitNot x = ofInt (Int.lnot (truncate x)) := by
  rw [bitNot, toInt_complement _ (by decide), toInt_truncate]

theorem lnot_eq (integer : Int) : Int.lnot integer = -integer - 1 := by
  cases integer with
  | ofNat n =>
      change Int.negSucc n = _
      rw [Int.negSucc_eq, Int.ofNat_eq_natCast]
      omega
  | negSucc n =>
      change (n : Int) = _
      rw [Int.negSucc_eq]
      omega

theorem lnot_lnot (integer : Int) : Int.lnot (Int.lnot integer) = integer := by
  rw [lnot_eq, lnot_eq]
  omega

theorem isNearest_onDoubles (operator : BitOperator) (x y : Float) :
    IsNearest (operator.onIntegers (truncate x) (truncate y)) (operator.onDoubles x y) := by
  obtain ⟨above, below⟩ := truncate_within x
  obtain ⟨above', below'⟩ := truncate_within y
  have within := operator.onIntegers_within above below above' below'
  rw [onDoubles_eq]
  exact isNearest_ofInt (by omega)

theorem isNearest_bitNot (x : Float) : IsNearest (Int.lnot (truncate x)) (bitNot x) := by
  have within := truncate_within x
  rw [bitNot_eq, lnot_eq]
  exact isNearest_ofInt (by omega)

/-! ## Integers that are doubles -/

/-- The integers of 54 bits: all of them are doubles. -/
def IsExact (integer : Int) : Prop :=
  -2 ^ 53 ≤ integer ∧ integer < 2 ^ 53

instance : DecidablePred IsExact :=
  fun integer => inferInstanceAs (Decidable (-2 ^ 53 ≤ integer ∧ integer < 2 ^ 53))

/-- Operands of few bits give a result of few bits, so that nothing is rounded. -/
theorem IsExact.onIntegers (operator : BitOperator) {first second : Int} (exact : IsExact first)
    (exact' : IsExact second) : IsExact (operator.onIntegers first second) :=
  operator.onIntegers_within exact.1 exact.2 exact'.1 exact'.2

theorem IsExact.lnot {integer : Int} (exact : IsExact integer) : IsExact (Int.lnot integer) := by
  rw [IsExact] at exact ⊢
  rw [lnot_eq]
  omega

theorem IsExact.exists_value {integer : Int} (exact : IsExact integer) :
    ∃ x : Float, x.isFinite ∧ value x = integer := by
  rw [IsExact] at exact
  obtain ⟨x, finite, same⟩ :=
    Double.exists_value (decide (integer < 0)) integer.natAbs 0 (by omega) (by decide)
  rw [Nat.pow_zero, Nat.mul_one, signed_natAbs] at same
  exact ⟨x, finite, same⟩

theorem IsExact.value_ofInt {integer : Int} (exact : IsExact integer) :
    IsNearest integer (ofInt integer) ∧ value (ofInt integer) = integer := by
  obtain ⟨x, finite, same⟩ := exact.exists_value
  rw [IsExact] at exact
  have rounded : IsNearest integer (ofInt integer) := isNearest_ofInt (by omega)
  exact ⟨rounded, rounded.value_eq finite same⟩

/-- An integer that doubles hold exactly comes back unchanged. -/
theorem IsExact.truncate_ofInt {integer : Int} (exact : IsExact integer) :
    truncate (ofInt integer) = integer := by
  obtain ⟨x, finite, same⟩ := exact.exists_value
  rw [IsExact] at exact
  apply Double.truncate_ofInt finite same
  · rw [leastWord, Nat.pow_eq]
    omega
  · rw [greatestWord, Nat.pow_eq]
    omega

/-- A double inside of a bitwise computation stands for the integer that it is truncated to.  Once
an operator gave it, it is the double of that integer. -/
structure Carries (integer : Int) (operated : Bool) (x : Float) : Prop where
  exact : IsExact integer
  truncated : truncate x = integer
  eq_ofInt : operated → x = ofInt integer

theorem carries_ofInt {integer : Int} (exact : IsExact integer) (operated : Bool) :
    Carries integer operated (ofInt integer) :=
  ⟨exact, exact.truncate_ofInt, fun _ => rfl⟩

/-- One step of a tree: what the operands carry is carried by the result. -/
theorem Carries.onDoubles (operator : BitOperator) {first second : Int} {operated operated' : Bool}
    (carries : Carries first operated x) (carries' : Carries second operated' y) :
    Carries (operator.onIntegers first second) true (operator.onDoubles x y) := by
  rw [onDoubles_eq, carries.truncated, carries'.truncated]
  exact carries_ofInt (carries.exact.onIntegers operator carries'.exact) true

theorem Carries.bitNot {integer : Int} {operated : Bool} (carries : Carries integer operated x) :
    Carries (Int.lnot integer) true (bitNot x) := by
  rw [bitNot_eq, carries.truncated]
  exact carries_ofInt carries.exact.lnot true

end Double

end Reckon
