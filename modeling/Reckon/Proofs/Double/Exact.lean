import Reckon.Proofs.Double.Reading
import Reckon.Double.Nearest

/-!
# Quotients that are doubles

A finite double is the double nearest to every quotient that has its exact value
(`Double.nearest_of_read`).
-/

namespace Reckon.Double

variable {x : Float} {negative : Bool} {units bits top numerator denominator : Nat}

/-! ## Signs and magnitudes -/

/-- A double is put together again from its sign and its magnitude. -/
theorem ofMagnitude_magnitude (x : Float) : ofMagnitude (isNegative x) (magnitude x) = x := by
  have small : x.toBits.toNat < 2 ^ 64 := x.toBits.toBitVec.isLt
  have whole : (if isNegative x then 2 ^ 63 + magnitude x else magnitude x) = x.toBits.toNat := by
    simp only [isNegative, magnitude, decide_eq_true_eq, Nat.pow_eq]
    split
    · omega
    · omega
  rw [ofMagnitude, Nat.pow_eq, whole, UInt64.ofNat_toNat, Float.ofBits_toBits]

/-- A finite reading is that of a finite magnitude. -/
theorem of_read_finite (reading : read x = .finite negative units) :
    magnitude x < infinityMagnitude ∧ unitsOfMagnitude (magnitude x) = units ∧
      ofMagnitude negative (magnitude x) = x := by
  have parts := ofMagnitude_magnitude x
  rw [read] at reading
  split at reading
  · cases reading
  · split at reading
    · cases reading
    · cases reading
      exact ⟨by omega, rfl, parts⟩

theorem scale_add_significand (bits : Nat) :
    scaleOfMagnitude bits * 2 ^ 52 + significandOfMagnitude bits = bits := by
  rw [scaleOfMagnitude, significandOfMagnitude, Nat.pow_eq]
  split
  · omega
  · omega

/-- A magnitude has at most 53 digits in front of the zeros of its scale. -/
theorem unitsOfMagnitude_lt (scale : scaleOfMagnitude bits ≤ top) :
    unitsOfMagnitude bits < Nat.pow 2 53 * Nat.pow 2 top := by
  have significand : significandOfMagnitude bits < Nat.pow 2 53 := by
    simp only [significandOfMagnitude, Nat.pow_eq]
    split
    · omega
    · omega
  exact Nat.mul_lt_mul_of_lt_of_le significand (Nat.pow_le_pow_right (by decide) scale)
    (Nat.two_pow_pos top)

theorem scale_le (finite : bits < infinityMagnitude) :
    scaleOfMagnitude bits ≤ 2045 := by
  rw [scaleOfMagnitude, Nat.pow_eq]
  rw [infinityMagnitude] at finite
  omega

theorem unitsOfMagnitude_eq_zero (none : unitsOfMagnitude bits = 0) : bits = 0 := by
  have significand : significandOfMagnitude bits = 0 :=
    (Nat.mul_eq_zero.mp none).resolve_right (Nat.ne_of_gt (Nat.two_pow_pos _))
  rw [significandOfMagnitude, Nat.pow_eq] at significand
  split at significand
  · exact significand
  · omega

/-! ## Rounding what needs no rounding -/

/-- A quotient without a remainder is not rounded. -/
theorem divRoundEven_mul (quotient : Nat) (positive : 0 < denominator) :
    divRoundEven (quotient * denominator) denominator = quotient := by
  rw [divRoundEven, Nat.mul_mod_left, Nat.mul_div_cancel _ positive, if_pos]
  exact positive

/-- The spacing around the exact value of a magnitude is that of the magnitude. -/
theorem log2_unitsOfMagnitude (bits : Nat) :
    (unitsOfMagnitude bits).log2 - 52 = scaleOfMagnitude bits := by
  rw [unitsOfMagnitude, Nat.pow_eq]
  by_cases subnormal : bits < 2 ^ 52
  · have scale : scaleOfMagnitude bits = 0 := by
      rw [scaleOfMagnitude, Nat.pow_eq]
      omega
    have significand : significandOfMagnitude bits = bits := if_pos subnormal
    rw [scale, significand, Nat.pow_zero, Nat.mul_one, Nat.sub_eq_zero_iff_le]
    by_cases zero : bits = 0
    · rw [zero, Nat.log2_zero]
      exact Nat.zero_le 52
    · exact Nat.le_of_lt ((Nat.log2_lt zero).mpr subnormal)
  · have significand : significandOfMagnitude bits = 2 ^ 52 + bits % 2 ^ 52 := if_neg subnormal
    have small : bits % 2 ^ 52 < 2 ^ 52 := Nat.mod_lt _ (by decide)
    rw [significand]
    generalize scaleOfMagnitude bits = scale
    have positive : 0 < 2 ^ scale := Nat.two_pow_pos scale
    have length : ((2 ^ 52 + bits % 2 ^ 52) * 2 ^ scale).log2 = 52 + scale := by
      rw [Nat.log2_eq_iff (by positivity), Nat.add_right_comm, Nat.pow_add, Nat.pow_add]
      constructor
      · exact Nat.mul_le_mul_right _ (by omega)
      · exact Nat.mul_lt_mul_of_pos_right (by omega) positive
    rw [length, Nat.add_sub_cancel_left]

/-- The magnitude nearest to a quotient with the exact value of a finite magnitude. -/
theorem nearestMagnitude_of_units (finite : bits < infinityMagnitude) (positive : 0 < denominator)
    (exact : numerator * unitsPerOne = unitsOfMagnitude bits * denominator) :
    nearestMagnitude numerator denominator = bits := by
  have scaled : unitsOfMagnitude bits * denominator =
      significandOfMagnitude bits * (denominator * Nat.pow 2 (scaleOfMagnitude bits)) := by
    rw [unitsOfMagnitude, Nat.mul_right_comm, Nat.mul_assoc]
  have spacing : 0 < denominator * Nat.pow 2 (scaleOfMagnitude bits) :=
    Nat.mul_pos positive (Nat.two_pow_pos _)
  simp only [nearestMagnitude, exact]
  rw [Nat.mul_div_cancel _ positive, log2_unitsOfMagnitude, scaled, divRoundEven_mul _ spacing,
    Nat.pow_eq, scale_add_significand]
  exact Nat.min_eq_left (Nat.le_of_lt finite)

/-- The double nearest to a quotient with the exact value of a finite double. -/
theorem nearest_of_read (reading : read x = .finite negative units) (positive : 0 < denominator)
    (exact : numerator * unitsPerOne = units * denominator) :
    nearest negative numerator denominator = x := by
  obtain ⟨finite, rfl, parts⟩ := of_read_finite reading
  rw [nearest, nearestMagnitude_of_units finite positive exact, parts]

end Reckon.Double
