import Mathlib
import Reckon.Double.Arithmetic

/-!
# What readings tell

A double is not a number, or one of two infinities, or the machine counts it as finite, and then
its reading is finite too (`read_of_isFinite`).  What is not a number exceeds nothing, and a zero
exceeds no bound from zero on.  All numbers lie between the infinities.
-/

namespace Reckon.Double

open Float.Model (UnpackedFloat)

variable {x y bound : Float}

/-! ## Infinities and what is not a number -/

theorem unpack_nan : nan.toModel.unpack = .notANumber :=
  rfl

theorem unpack_zero : zero.toModel.unpack = .zero .positive :=
  rfl

theorem eq_of_unpack (same : x.toModel.unpack = y.toModel.unpack) : x = y := by
  rw [← Float.toBits_inj, ← UInt64.toBitVec_inj]
  exact (UnpackedFloat.unpack_inj_of_valid x.toModel.valid y.toModel.valid).mp same

theorem isFinite_eq_unpack (x : Float) : x.isFinite = x.toModel.unpack.isFinite :=
  rfl

/-- Every double is NaN, one of two infinities, or finite; NaN has one form only. -/
theorem kinds (x : Float) : x = nan ∨ x = infinity ∨ x = -infinity ∨ x.isFinite := by
  rw [isFinite_eq_unpack]
  cases unpacked : x.toModel.unpack with
  | notANumber => exact Or.inl (eq_of_unpack unpacked)
  | infinity sign =>
      cases sign with
      | positive => exact Or.inr (Or.inl (eq_of_unpack unpacked))
      | negative => exact Or.inr (Or.inr (Or.inl (eq_of_unpack unpacked)))
  | zero sign => exact Or.inr (Or.inr (Or.inr rfl))
  | finite sign mantissa exponent positive => exact Or.inr (Or.inr (Or.inr rfl))

theorem isNaN_of_isFinite (finite : x.isFinite) : x.isNaN = false := by
  rw [Float.isNaN_eq_decide_eq_nan, decide_eq_false_iff_not]
  rintro rfl
  exact absurd finite (by decide)

theorem isInf_of_isFinite (finite : x.isFinite) : x.isInf = false := by
  rw [isFinite_eq_unpack] at finite
  change x.toModel.unpack.isInf = false
  cases unpacked : x.toModel.unpack with
  | notANumber => rfl
  | infinity sign => rw [unpacked] at finite; exact nomatch finite
  | zero sign => rfl
  | finite sign mantissa exponent positive => rfl

theorem special_of_not_isFinite (special : ¬x.isFinite) : x.isNaN ∨ x.isInf := by
  rcases kinds x with rfl | rfl | rfl | finite
  · exact Or.inl rfl
  · exact Or.inr rfl
  · exact Or.inr rfl
  · exact absurd finite special

theorem eq_of_isInf (infinite : x.isInf) : x = infinity ∨ x = -infinity := by
  rcases kinds x with rfl | rfl | rfl | finite
  · exact absurd infinite (by decide)
  · exact Or.inl rfl
  · exact Or.inr rfl
  · rw [isInf_of_isFinite finite] at infinite
    cases infinite

/-! ## Finite doubles -/

/-- The bits of the exponent of a double. -/
def exponentBits (x : Float) : BitVec 11 :=
  @UnpackedFloat.unpackExponent .binary64 x.toBits.toBitVec

theorem toNat_exponentBits (x : Float) : (exponentBits x).toNat = magnitude x / 2 ^ 52 := by
  have shifted : (exponentBits x).toNat = x.toBits.toNat / 2 ^ 52 % 2 ^ 11 := by
    rw [← Nat.shiftRight_eq_div_pow]
    rfl
  rw [shifted, magnitude, Nat.pow_eq]
  omega

/-- The greatest exponent is left to the doubles that are not finite. -/
theorem not_isFinite_of_exponent (greatest : exponentBits x = -1#11) : ¬x.isFinite := by
  rw [isFinite_eq_unpack, Float.Model.unpack, UnpackedFloat.unpack]
  have same : @UnpackedFloat.unpackExponent .binary64 x.toModel.toBits.toBitVec = -1#11 :=
    greatest
  simp only [same]
  split
  · split
    · exact Bool.false_ne_true
    · exact Bool.false_ne_true
  · contradiction

/-- A finite double is a sign and a number of the smallest units. -/
theorem read_of_isFinite (finite : x.isFinite) :
    ∃ negative units, read x = .finite negative units := by
  have within : magnitude x < infinityMagnitude := by
    by_contra beyond
    rw [infinityMagnitude] at beyond
    apply not_isFinite_of_exponent _ finite
    apply BitVec.eq_of_toNat_eq
    have small : magnitude x < 2 ^ 63 := Nat.mod_lt _ (by decide)
    rw [toNat_exponentBits, show (-1#11).toNat = 2047 from rfl]
    omega
  rw [read, if_neg (Nat.lt_asymm within), if_neg (Nat.ne_of_lt within)]
  exact ⟨_, _, rfl⟩

/-! ## Exceeding a bound -/

/-- The order of the machine is that of the unpacked parts. -/
theorem lt_iff :
    x < y ↔ UnpackedFloat.compare x.toModel.unpack y.toModel.unpack = some .lt := by
  change decide (x.toModel < y.toModel) = true ↔ _
  rw [decide_eq_true_iff]
  exact beq_iff_eq

theorem le_iff :
    x ≤ y ↔ (UnpackedFloat.compare x.toModel.unpack y.toModel.unpack).any Ordering.isLE := by
  change decide (x.toModel ≤ y.toModel) = true ↔ _
  rw [decide_eq_true_iff]
  exact Iff.rfl

theorem not_lt_nan : ¬bound < nan := by
  rw [lt_iff, unpack_nan]
  cases bound.toModel.unpack with
  | notANumber => exact nofun
  | infinity sign => cases sign <;> exact nofun
  | zero sign => exact nofun
  | finite sign => cases sign <;> exact nofun

theorem not_lt_zero (above : zero ≤ bound) : ¬bound < zero := by
  rw [le_iff, unpack_zero] at above
  rw [lt_iff, unpack_zero]
  cases unpacked : bound.toModel.unpack with
  | notANumber => exact nofun
  | infinity sign =>
      cases sign with
      | positive => exact nofun
      | negative => rw [unpacked] at above; exact nomatch above
  | zero sign => exact nofun
  | finite sign mantissa exponent positive =>
      cases sign with
      | positive => exact nofun
      | negative => rw [unpacked] at above; exact nomatch above

/-- What is not a number is above no bound. -/
theorem not_lt_abs_of_isNaN (isNaN : x.isNaN) : ¬bound < x.abs := by
  rw [Float.isNaN_eq_decide_eq_nan, decide_eq_true_eq] at isNaN
  have same : Float.nan.abs = nan := rfl
  rw [isNaN, same]
  exact not_lt_nan

/-- A zero of either sign is above no bound that is a zero or more. -/
theorem not_lt_abs_of_beq_zero (isZero : x == zero) (above : zero ≤ bound) : ¬bound < x.abs := by
  have same : x.abs = zero := by
    obtain ⟨-, -, rfl | ⟨rfl, -⟩ | ⟨rfl, -⟩⟩ := Float.beq_iff_ne_nan_and_eq.mp isZero
    · rfl
    · rfl
    · rfl
  rw [same]
  exact not_lt_zero above

/-! ## The order with the infinities -/

theorem le_infinity (number : x ≠ nan) : x ≤ infinity := by
  rw [le_iff, show infinity.toModel.unpack = .infinity .positive from rfl]
  cases unpacked : x.toModel.unpack with
  | notANumber => exact absurd (eq_of_unpack unpacked) number
  | infinity sign => cases sign <;> rfl
  | zero sign => rfl
  | finite sign mantissa exponent positive => rfl

theorem neg_infinity_le (number : x ≠ nan) : -infinity ≤ x := by
  rw [le_iff, show (-infinity).toModel.unpack = .infinity .negative from rfl]
  cases unpacked : x.toModel.unpack with
  | notANumber => exact absurd (eq_of_unpack unpacked) number
  | infinity sign => cases sign <;> rfl
  | zero sign => rfl
  | finite sign mantissa exponent positive => rfl

theorem not_infinity_le (finite : y.isFinite) : ¬infinity ≤ y := by
  rw [isFinite_eq_unpack] at finite
  rw [le_iff, show infinity.toModel.unpack = .infinity .positive from rfl]
  cases unpacked : y.toModel.unpack with
  | notANumber => exact nofun
  | infinity sign => rw [unpacked] at finite; exact nomatch finite
  | zero sign => exact nofun
  | finite sign mantissa exponent positive => exact nofun

theorem not_le_neg_infinity (finite : x.isFinite) : ¬x ≤ -infinity := by
  rw [isFinite_eq_unpack] at finite
  rw [le_iff, show (-infinity).toModel.unpack = .infinity .negative from rfl]
  cases unpacked : x.toModel.unpack with
  | notANumber => exact nofun
  | infinity sign => rw [unpacked] at finite; exact nomatch finite
  | zero sign => exact nofun
  | finite sign mantissa exponent positive => cases sign <;> exact nofun

theorem not_nan_le : ¬nan ≤ y := by
  rw [le_iff, unpack_nan]
  exact nofun

theorem not_le_nan : ¬x ≤ nan := by
  rw [le_iff, unpack_nan]
  cases x.toModel.unpack with
  | notANumber => exact nofun
  | infinity sign => cases sign <;> exact nofun
  | zero sign => exact nofun
  | finite sign => cases sign <;> exact nofun

/-- Doubles in order are finite, or one of them is the infinity on its side. -/
theorem le_cases (order : x ≤ y) :
    x = -infinity ∨ y = infinity ∨ x.isFinite ∧ y.isFinite := by
  rcases kinds x with rfl | rfl | rfl | finite
  · exact absurd order not_nan_le
  · rcases kinds y with rfl | rfl | rfl | finite'
    · exact absurd order not_le_nan
    · exact Or.inr (Or.inl rfl)
    · exact absurd order (by decide)
    · exact absurd order (not_infinity_le finite')
  · exact Or.inl rfl
  · rcases kinds y with rfl | rfl | rfl | finite'
    · exact absurd order not_le_nan
    · exact Or.inr (Or.inl rfl)
    · exact absurd order (not_le_neg_infinity finite)
    · exact Or.inr (Or.inr ⟨finite, finite'⟩)

end Reckon.Double
