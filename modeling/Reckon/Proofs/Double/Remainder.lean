import Reckon.Proofs.Double.Truncation

/-!
# The exact remainder

The remainder of truncated division is told by exact values (`Double.IsRemainder`): what is left of
the dividend behind the whole multiples of the divisor.  The units of two finite magnitudes leave a
remainder that is the number of units of a third one (`exists_magnitude_mod`), however far their
exponents are apart, so that nothing is rounded (`remainder_of_isFinite`).  Infinities, zeros and
what is not a number included, there is exactly one remainder (`isRemainder_iff`).
-/

namespace Reckon.Double

variable {x y : Float} {bits other dividend divisor : Nat}

/-! ## Division of integers with signs -/

/-- The remainder takes the sign of the dividend, whatever that of the divisor. -/
theorem tmod_signed (negative negative' : Bool) (dividend divisor : Nat) :
    (signed negative dividend).tmod (signed negative' divisor) =
      signed negative (dividend % divisor) := by
  have plain : (dividend : Int).tmod divisor = (dividend % divisor : Nat) := rfl
  have opposite : (-(dividend : Int)).tmod divisor = -(dividend % divisor : Nat) := by
    rw [Int.neg_tmod, plain]
  cases negative with
  | false =>
      cases negative' with
      | false => exact plain
      | true => exact (Int.tmod_neg _ _).trans plain
  | true =>
      cases negative' with
      | false => exact opposite
      | true => exact (Int.tmod_neg _ _).trans opposite

theorem tdiv_signed (negative : Bool) (dividend divisor : Nat) :
    (signed negative dividend).tdiv divisor = signed negative (dividend / divisor) := by
  cases negative with
  | false => rfl
  | true => exact Int.neg_tdiv _ _

/-- Division of integers is truncated as that of rationals. -/
theorem towardZero_intCast_div (dividend divisor : Int) :
    towardZero ((dividend : ℚ) / divisor) = dividend.tdiv divisor := by
  have byNatural (dividend : Int) (divisor : Nat) :
      towardZero ((dividend : ℚ) / divisor) = dividend.tdiv divisor := by
    have split := towardZero_div (decide (dividend < 0)) dividend.natAbs divisor
    rwa [← tdiv_signed, signed_natAbs] at split
  obtain ⟨size, rfl | rfl⟩ := Int.eq_nat_or_neg divisor
  · exact byNatural dividend size
  · rw [Int.cast_neg, div_neg, ← neg_div, ← Int.cast_neg, Int.cast_natCast, byNatural,
      Int.neg_tdiv, Int.tdiv_neg]

theorem abs_tmod_lt (dividend : Int) {divisor : Int} (some : divisor ≠ 0) :
    |dividend.tmod divisor| < |divisor| := by
  rw [Int.abs_eq_natAbs, Int.abs_eq_natAbs, Int.natAbs_tmod, Int.ofNat_lt]
  exact Nat.mod_lt _ (Int.natAbs_pos.mpr some)

/-! ## Units that are left -/

/-- Two scaled numbers leave a scaled number: on the spacing of the dividend it is not longer than
the dividend, on that of the divisor it is below the divisor. -/
theorem exists_scaled_mod (top bottom : Nat) (short : dividend < 2 ^ 53)
    (short' : divisor < 2 ^ 53) (some : divisor ≠ 0) :
    ∃ significand scale, significand < 2 ^ 53 ∧
      significand * 2 ^ scale = dividend * 2 ^ top % (divisor * 2 ^ bottom) := by
  rcases Nat.le_total top bottom with wider | narrower
  · obtain ⟨step, rfl⟩ := Nat.exists_eq_add_of_le' wider
    refine ⟨dividend % (divisor * 2 ^ step), top, (Nat.mod_le _ _).trans_lt short, ?_⟩
    rw [Nat.pow_add, ← Nat.mul_assoc, Nat.mul_mod_mul_right]
  · obtain ⟨step, rfl⟩ := Nat.exists_eq_add_of_le' narrower
    have inside := Nat.mod_lt (dividend * 2 ^ step) (Nat.pos_of_ne_zero some)
    refine ⟨dividend * 2 ^ step % divisor, bottom, inside.trans short', ?_⟩
    rw [Nat.pow_add, ← Nat.mul_assoc, Nat.mul_mod_mul_right]

/-- What the units of one magnitude leave behind those of another are those of a magnitude. -/
theorem exists_magnitude_mod (finite : bits < infinityMagnitude) (some : other ≠ 0) :
    ∃ rest < infinityMagnitude,
      unitsOfMagnitude rest = unitsOfMagnitude bits % unitsOfMagnitude other := by
  have some' : significandOfMagnitude other ≠ 0 := by
    intro none
    apply some
    apply unitsOfMagnitude_eq_zero
    rw [unitsOfMagnitude, none, Nat.zero_mul]
  obtain ⟨significand, scale, short, left⟩ :=
    exists_scaled_mod (scaleOfMagnitude bits) (scaleOfMagnitude other)
      (significandOfMagnitude_lt bits) (significandOfMagnitude_lt other) some'
  obtain ⟨rest, units⟩ := exists_units significand scale short.le
  have same : unitsOfMagnitude rest = unitsOfMagnitude bits % unitsOfMagnitude other :=
    units.trans left
  refine ⟨rest, ?_, same⟩
  have below : rest ≤ bits :=
    unitsOfMagnitude_strictMono.le_iff_le.mp (same.trans_le (Nat.mod_le _ _))
  exact below.trans_lt finite

/-! ## Remainders of doubles -/

/-- The exact remainder of two finite doubles: what is left of the dividend behind the multiple of
the divisor that the quotient, truncated toward zero, counts.  Nothing is rounded, and also a zero
has the sign of the dividend. -/
structure IsExactRemainder (x y z : Float) : Prop where
  isFinite : z.isFinite
  value_eq : value z = value x - towardZero (value x / value y) * value y
  abs_lt : |value z| < |value y|
  isNegative : isNegative z = isNegative x

/-- The remainder of any two doubles. -/
structure IsRemainder (x y z : Float) : Prop where
  isNaN_iff : z.isNaN ↔ x.isNaN ∨ y.isNaN ∨ x.isInf ∨ (y == zero) = true
  ofInfinite : x.isFinite → y.isInf → z = x
  ofFinite : x.isFinite → y.isFinite → (y == zero) = false → IsExactRemainder x y z

/-- Units of a magnitude are not rounded when they become a double. -/
theorem ofUnits_unitsOfMagnitude {negative : Bool} (finite : bits < infinityMagnitude) :
    ofUnits negative (unitsOfMagnitude bits) = ofMagnitude negative bits := by
  rw [ofUnits, nearest, nearestMagnitude_of_units finite (Nat.cast_pos.mp unitsPerOne_pos) rfl]

/-- The quotient toward zero is that of the units: one factor cancels. -/
theorem towardZero_value_div (finite : x.isFinite) (finite' : y.isFinite) :
    towardZero (value x / value y) = (signedUnits x).tdiv (signedUnits y) := by
  rw [value_of_isFinite finite, value_of_isFinite finite',
    div_div_div_cancel_right₀ unitsPerOne_pos.ne', towardZero_intCast_div]

/-- Between finite doubles the remainder is exact: its units are those of a magnitude. -/
theorem remainder_of_isFinite (finite : x.isFinite) (finite' : y.isFinite)
    (some : magnitude y ≠ 0) : IsExactRemainder x y (remainder x y) := by
  obtain ⟨rest, within, units⟩ := exists_magnitude_mod (isFinite_iff.mp finite) some
  have same : remainder x y = ofMagnitude (isNegative x) rest := by
    rw [remainder, read_eq finite, read_eq finite']
    dsimp only
    rw [if_neg (unitsOfMagnitude_pos some).ne', ← units, ofUnits_unitsOfMagnitude within]
  have left : signed (isNegative x) (unitsOfMagnitude rest) =
      (signedUnits x).tmod (signedUnits y) := by
    rw [signedUnits, signedUnits, tmod_signed, units]
  rw [same]
  constructor
  case isFinite => exact isFinite_ofMagnitude within
  case value_eq =>
    rw [value_ofMagnitude within, left, towardZero_value_div finite finite', Int.tmod_def,
      value_of_isFinite finite, value_of_isFinite finite', Int.cast_sub, Int.cast_mul, sub_div,
      mul_comm, mul_div_assoc]
  case abs_lt =>
    have below := abs_tmod_lt (signedUnits x) (mt signedUnits_eq_zero_iff.mp some)
    rw [value_ofMagnitude within, left, value_of_isFinite finite', abs_div, abs_div,
      div_lt_div_iff_of_pos_right (abs_pos.mpr unitsPerOne_pos.ne'), ← Int.cast_abs,
      ← Int.cast_abs, Int.cast_lt]
    exact below
  case isNegative => exact isNegative_ofMagnitude within

/-! ## Remainders that are not exact -/

theorem remainder_of_not_isFinite (special : ¬x.isFinite) : remainder x y = nan := by
  rcases kinds x with rfl | rfl | rfl | finite
  · rfl
  · rfl
  · rfl
  · exact absurd finite special

theorem remainder_nan (x : Float) : remainder x nan = nan := by
  rw [remainder, show read nan = .nan from rfl]
  cases read x with
  | nan => rfl
  | infinite negative => rfl
  | finite negative units => rfl

theorem remainder_of_isInf (finite : x.isFinite) (infinite : y.isInf) : remainder x y = x := by
  rw [remainder, read_eq finite]
  rcases eq_of_isInf infinite with rfl | rfl
  · rfl
  · rfl

theorem remainder_of_magnitude_eq_zero (finite : y.isFinite) (none : magnitude y = 0) :
    remainder x y = nan := by
  rw [remainder, read_eq finite, none, unitsOfMagnitude_zero]
  cases read x with
  | nan => rfl
  | infinite negative => rfl
  | finite negative units => rfl

/-- The remainders that are not numbers, told by both operands. -/
theorem isNaN_remainder_iff (x y : Float) :
    (remainder x y).isNaN ↔ x.isNaN ∨ y.isNaN ∨ x.isInf ∨ (y == zero) = true := by
  by_cases finite : x.isFinite
  · rw [isNaN_of_isFinite finite, isInf_of_isFinite finite]
    rcases kinds y with rfl | rfl | rfl | finite'
    · rw [remainder_nan]
      decide
    · rw [remainder_of_isInf finite rfl, isNaN_of_isFinite finite]
      decide
    · rw [remainder_of_isInf finite rfl, isNaN_of_isFinite finite]
      decide
    · rw [isNaN_of_isFinite finite', beq_zero_iff finite']
      by_cases none : magnitude y = 0
      · rw [remainder_of_magnitude_eq_zero finite' none]
        exact iff_of_true rfl (Or.inr (Or.inr (Or.inr none)))
      · rw [isNaN_of_isFinite (remainder_of_isFinite finite finite' none).isFinite]
        simp [none]
  · rw [remainder_of_not_isFinite finite]
    refine iff_of_true rfl ?_
    rcases special_of_not_isFinite finite with isNaN | infinite
    · exact Or.inl isNaN
    · exact Or.inr (Or.inr (Or.inl infinite))

theorem isRemainder_remainder (x y : Float) : IsRemainder x y (remainder x y) := by
  constructor
  case isNaN_iff => exact isNaN_remainder_iff x y
  case ofInfinite => exact remainder_of_isInf
  case ofFinite =>
    intro finite finite' some
    apply remainder_of_isFinite finite finite'
    rw [Ne, ← beq_zero_iff finite', some]
    exact Bool.false_ne_true

theorem IsExactRemainder.unique {z z' : Float} (first : IsExactRemainder x y z)
    (second : IsExactRemainder x y z') : z = z' :=
  eq_of_value_eq first.isFinite second.isFinite (first.value_eq.trans second.value_eq.symm)
    (first.isNegative.trans second.isNegative.symm)

/-- Two doubles have one remainder, the sign of a zero included. -/
theorem IsRemainder.unique {z z' : Float} (first : IsRemainder x y z)
    (second : IsRemainder x y z') : z = z' := by
  by_cases isNaN : z.isNaN
  · have isNaN' := second.isNaN_iff.mpr (first.isNaN_iff.mp isNaN)
    rw [Float.isNaN_eq_decide_eq_nan, decide_eq_true_eq] at isNaN isNaN'
    rw [isNaN, isNaN']
  · rw [first.isNaN_iff, not_or, not_or, not_or, Bool.not_eq_true (y == zero)] at isNaN
    obtain ⟨number, number', bounded, some⟩ := isNaN
    have finite : x.isFinite := by
      by_contra special
      exact (special_of_not_isFinite special).elim number bounded
    by_cases finite' : y.isFinite
    · exact (first.ofFinite finite finite' some).unique (second.ofFinite finite finite' some)
    · have infinite := (special_of_not_isFinite finite').resolve_left number'
      rw [first.ofInfinite finite infinite, second.ofInfinite finite infinite]

/-- The remainder is the only double that is one. -/
theorem isRemainder_iff {z : Float} : IsRemainder x y z ↔ remainder x y = z := by
  constructor
  · intro isRemainder
    exact (isRemainder_remainder x y).unique isRemainder
  · rintro rfl
    exact isRemainder_remainder x y

end Reckon.Double
