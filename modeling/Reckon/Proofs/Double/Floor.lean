import Reckon.Proofs.Double.Truncation

/-!
# Floors and ceilings

The floor and the ceiling of a finite double are the doubles of the integers next to its value
(`Double.floor_of_isFinite`, `Double.ceil_of_isFinite`).  These integers are values of doubles, so
that they are not rounded however long they are (`Double.value_ofInt`), and a zero is positive.
Negation turns one into the other, both keep the order of all doubles, and neither changes a double
that is not finite.
-/

namespace Reckon.Double

open Float.Model (UnpackedFloat)

variable {x y : Float} {integer : Int}

/-! ## Negation -/

theorem neg_eq_of_unpack (turned : x.toModel.unpack.neg = y.toModel.unpack) : -x = y := by
  have packed : -x = Float.ofModel (Float.Model.pack x.toModel.unpack.neg) := rfl
  rw [packed, turned, ← Float.toBits_inj, ← UInt64.toBitVec_inj]
  exact UnpackedFloat.pack_unpack_of_valid y.toModel.valid

theorem neg_sign (turned : isNegative y = !isNegative x) : -sign x = sign y := by
  rw [sign, sign, turned]
  cases isNegative x with
  | false => rfl
  | true => rfl

/-- Negation changes the sign of a finite double, also of a zero, and nothing else. -/
theorem neg_of_isFinite (finite : x.isFinite) :
    -x = ofMagnitude (!isNegative x) (magnitude x) := by
  have within := isFinite_iff.mp finite
  have turned : -sign x = sign (ofMagnitude (!isNegative x) (magnitude x)) :=
    neg_sign (isNegative_ofMagnitude within)
  have same : magnitude (ofMagnitude (!isNegative x) (magnitude x)) = magnitude x :=
    magnitude_ofMagnitude within
  apply neg_eq_of_unpack
  by_cases none : magnitude x = 0
  · rw [unpack_of_magnitude_eq_zero none, unpack_of_magnitude_eq_zero (same.trans none), ← turned]
    rfl
  · obtain ⟨positive, unpacked⟩ := unpack_of_finite within none
    obtain ⟨positive', unpacked'⟩ :=
      unpack_of_finite (isFinite_iff.mp (isFinite_ofMagnitude within)) (same.symm ▸ none)
    simp only [unpacked, unpacked', same, ← turned]
    rfl

theorem isFinite_neg (finite : x.isFinite) : (-x).isFinite := by
  rw [neg_of_isFinite finite]
  exact isFinite_ofMagnitude (isFinite_iff.mp finite)

theorem signed_not (negative : Bool) (absolute : Nat) :
    signed (!negative) absolute = -signed negative absolute := by
  cases negative with
  | false => rfl
  | true => exact (neg_neg (absolute : Int)).symm

theorem value_neg (finite : x.isFinite) : value (-x) = -value x := by
  rw [neg_of_isFinite finite, value_ofMagnitude (isFinite_iff.mp finite), signed_not,
    value_of_isFinite finite, signedUnits, Int.cast_neg, neg_div]

/-! ## Integers of any length -/

theorem magnitude_of_value (finite : x.isFinite) (same : value x = integer) :
    unitsOfMagnitude (magnitude x) = integer.natAbs * unitsPerOne := by
  rw [value_of_isFinite finite, div_eq_iff unitsPerOne_pos.ne', ← Int.cast_natCast (R := ℚ),
    ← Int.cast_mul, Int.cast_inj] at same
  have sizes := congrArg Int.natAbs same
  rwa [signedUnits, natAbs_signed, Int.natAbs_mul, Int.natAbs_natCast] at sizes

/-- An integer that is the value of some finite double is not rounded. -/
theorem value_ofInt (finite : x.isFinite) (same : value x = integer) :
    (ofInt integer).isFinite ∧ value (ofInt integer) = integer := by
  have within := isFinite_iff.mp finite
  have units := magnitude_of_value finite same
  have eq : ofInt integer = ofMagnitude (decide (integer < 0)) (magnitude x) := by
    rw [ofInt, nearest, nearestMagnitude_of_units within Nat.one_pos]
    rw [units, Nat.mul_one]
  rw [eq]
  refine ⟨isFinite_ofMagnitude within, ?_⟩
  rw [value_ofMagnitude within, units, signed_mul, signed_natAbs, Int.cast_mul, Int.cast_natCast,
    mul_div_cancel_right₀ _ unitsPerOne_pos.ne']

theorem ofInt_zero : ofInt 0 = zero := by
  decide +kernel

/-! ## Floors and ceilings -/

/-- The floor of a finite double is the double for the floor of its exact value. -/
theorem floor_of_isFinite (finite : x.isFinite) : floor x = ofInt ⌊value x⌋ := by
  have positive : 0 ≤ (unitsPerOne : Int) := Int.natCast_nonneg _
  rw [floor, read_eq finite, value_of_isFinite finite, Rat.floor_intCast_div_natCast, signedUnits]
  dsimp only
  rw [Int.fdiv_eq_ediv_of_nonneg _ positive]

theorem ceil_of_isFinite (finite : x.isFinite) : ceil x = ofInt ⌈value x⌉ := by
  have positive : 0 ≤ (unitsPerOne : Int) := Int.natCast_nonneg _
  have turned : ⌈value x⌉ = -⌊-value x⌋ := by rw [Int.floor_neg, neg_neg]
  rw [ceil, read_eq finite, turned, value_of_isFinite finite, ← neg_div, ← Int.cast_neg,
    Rat.floor_intCast_div_natCast, signedUnits]
  dsimp only
  rw [Int.fdiv_eq_ediv_of_nonneg _ positive]

/-- The doubles of the integers next to a finite double, below it and above it. -/
structure IsEnclosed (x low high : Float) : Prop where
  low_isFinite : low.isFinite
  high_isFinite : high.isFinite
  value_low : value low = ⌊value x⌋
  value_high : value high = ⌈value x⌉
  low_zero : value low = 0 → low = zero
  high_zero : value high = 0 → high = zero
  low_le : low ≤ x
  le_high : x ≤ high
  apart : value high = value low ∨ value high = value low + 1

/-- Floor and ceiling lie next to a value, with at most one integer step between them. -/
theorem isEnclosed (finite : x.isFinite) : IsEnclosed x (floor x) (ceil x) := by
  obtain ⟨low, lowFinite, lowSame⟩ :=
    exists_value_between finite le_rfl (Int.floor_le_ceil (value x))
  obtain ⟨high, highFinite, highSame⟩ :=
    exists_value_between finite (Int.floor_le_ceil (value x)) le_rfl
  obtain ⟨floorFinite, floorValue⟩ := value_ofInt lowFinite lowSame
  obtain ⟨ceilFinite, ceilValue⟩ := value_ofInt highFinite highSame
  rw [floor_of_isFinite finite, ceil_of_isFinite finite]
  constructor
  case low_isFinite => exact floorFinite
  case high_isFinite => exact ceilFinite
  case value_low => exact floorValue
  case value_high => exact ceilValue
  case low_zero =>
    intro none
    rw [floorValue, Int.cast_eq_zero] at none
    rw [none, ofInt_zero]
  case high_zero =>
    intro none
    rw [ceilValue, Int.cast_eq_zero] at none
    rw [none, ofInt_zero]
  case low_le =>
    rw [le_iff_value floorFinite finite, floorValue]
    exact Int.floor_le (value x)
  case le_high =>
    rw [le_iff_value finite ceilFinite, ceilValue]
    exact Int.le_ceil (value x)
  case apart =>
    have least := Int.floor_le_ceil (value x)
    have most := Int.ceil_le_floor_add_one (value x)
    rw [floorValue, ceilValue]
    exact_mod_cast (by omega : ⌈value x⌉ = ⌊value x⌋ ∨ ⌈value x⌉ = ⌊value x⌋ + 1)

theorem floor_of_not_isFinite (special : ¬x.isFinite) : floor x = x := by
  rcases kinds x with rfl | rfl | rfl | finite
  · rfl
  · rfl
  · rfl
  · exact absurd finite special

theorem ceil_of_not_isFinite (special : ¬x.isFinite) : ceil x = x := by
  rcases kinds x with rfl | rfl | rfl | finite
  · rfl
  · rfl
  · rfl
  · exact absurd finite special

/-- The ceiling is the floor seen from the other side of zero, as long as the sign of a zero does
not count. -/
theorem ceil_neg_beq (number : x ≠ nan) : (ceil (-x) == -floor x) = true := by
  rcases kinds x with rfl | rfl | rfl | finite
  · exact absurd rfl number
  · decide
  · decide
  · have below := isEnclosed finite
    have above := isEnclosed (isFinite_neg finite)
    rw [beq_iff_value above.high_isFinite (isFinite_neg below.low_isFinite), above.value_high,
      value_neg below.low_isFinite, below.value_low, value_neg finite, Int.ceil_neg, Int.cast_neg]

theorem floor_floor (x : Float) : floor (floor x) = floor x := by
  by_cases finite : x.isFinite
  · have enclosed := isEnclosed finite
    rw [floor_of_isFinite enclosed.low_isFinite, enclosed.value_low, Int.floor_intCast,
      floor_of_isFinite finite]
  · rw [floor_of_not_isFinite finite, floor_of_not_isFinite finite]

theorem ceil_ceil (x : Float) : ceil (ceil x) = ceil x := by
  by_cases finite : x.isFinite
  · have enclosed := isEnclosed finite
    rw [ceil_of_isFinite enclosed.high_isFinite, enclosed.value_high, Int.ceil_intCast,
      ceil_of_isFinite finite]
  · rw [ceil_of_not_isFinite finite, ceil_of_not_isFinite finite]

/-- A function that keeps finite doubles finite and in order, and does not change the others, keeps
all doubles in order. -/
theorem mono_of_isFinite {function : Float → Float}
    (kept : ∀ x : Float, x.isFinite → (function x).isFinite)
    (unchanged : ∀ x : Float, ¬x.isFinite → function x = x)
    (mono : ∀ x y : Float, x.isFinite → y.isFinite → value x ≤ value y →
      value (function x) ≤ value (function y)) (order : x ≤ y) : function x ≤ function y := by
  have number (x : Float) (some : x ≠ nan) : function x ≠ nan := by
    by_cases finite : x.isFinite
    · intro isNaN
      exact absurd (isNaN ▸ kept x finite) (by decide)
    · rwa [unchanged x finite]
  rcases le_cases order with rfl | rfl | ⟨finite, finite'⟩
  · rw [unchanged (-infinity) (by decide)]
    exact neg_infinity_le (number y fun isNaN => not_le_nan (isNaN ▸ order))
  · rw [unchanged infinity (by decide)]
    exact le_infinity (number x fun isNaN => not_nan_le (isNaN ▸ order))
  · rw [le_iff_value (kept x finite) (kept y finite')]
    exact mono x y finite finite' ((le_iff_value finite finite').mp order)

/-- Floors keep the order of all doubles. -/
theorem floor_mono (order : x ≤ y) : floor x ≤ floor y := by
  refine mono_of_isFinite (fun x finite => (isEnclosed finite).low_isFinite)
    (fun x special => floor_of_not_isFinite special) ?_ order
  intro x y finite finite' below
  rw [(isEnclosed finite).value_low, (isEnclosed finite').value_low, Int.cast_le]
  exact Int.floor_mono below

theorem ceil_mono (order : x ≤ y) : ceil x ≤ ceil y := by
  refine mono_of_isFinite (fun x finite => (isEnclosed finite).high_isFinite)
    (fun x special => ceil_of_not_isFinite special) ?_ order
  intro x y finite finite' below
  rw [(isEnclosed finite).value_high, (isEnclosed finite').value_high, Int.cast_le]
  exact Int.ceil_mono below

end Reckon.Double
