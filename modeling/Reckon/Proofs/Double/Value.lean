import Reckon.Proofs.Double.Exact
import Reckon.Double.Integer

/-!
# Exact values of doubles

Every finite double has a rational value (`Double.value`).  It is told by the parts that the machine
takes a double into, which are those of a reading (`unpack_of_finite`), so that a reading counts the
units of the value (`value_of_isFinite`).  The machine compares finite doubles by their values
(`compare_of_isFinite`).
-/

namespace Reckon.Double

open Float.Model (UnpackedFloat)
open Float.Model.UnpackedFloat (Sign unpackExponent unpackMantissa unpackSign)

variable {x y : Float} {bits scale significand : Nat}

/-! ## Magnitudes in order -/

theorem significandOfMagnitude_of_subnormal (subnormal : bits < 2 ^ 52) :
    significandOfMagnitude bits = bits :=
  if_pos subnormal

theorem significandOfMagnitude_of_normal (normal : 2 ^ 52 ≤ bits) :
    significandOfMagnitude bits = 2 ^ 52 + bits % 2 ^ 52 :=
  if_neg (Nat.not_lt.mpr normal)

theorem significandOfMagnitude_lt (bits : Nat) : significandOfMagnitude bits < 2 ^ 53 := by
  rw [significandOfMagnitude, Nat.pow_eq]
  split
  · omega
  · omega

/-- Only the doubles that are not scaled lack a leading bit. -/
theorem scaleOfMagnitude_eq_zero_or (bits : Nat) :
    scaleOfMagnitude bits = 0 ∨ 2 ^ 52 ≤ significandOfMagnitude bits := by
  rw [significandOfMagnitude, scaleOfMagnitude, Nat.pow_eq]
  split
  · omega
  · omega

/-- The units of a magnitude that is put together from a scale and a significand; a significand
may be one too long. -/
theorem unitsOfMagnitude_of_parts (lead : scale = 0 ∨ 2 ^ 52 ≤ significand)
    (short : significand ≤ 2 ^ 53) :
    unitsOfMagnitude (scale * 2 ^ 52 + significand) = significand * 2 ^ scale := by
  rw [unitsOfMagnitude, Nat.pow_eq]
  rcases Nat.lt_or_ge significand (2 ^ 52) with subnormal | normal
  · have unscaled : scale = 0 := by omega
    have none : scaleOfMagnitude (scale * 2 ^ 52 + significand) = 0 := by
      rw [scaleOfMagnitude, Nat.pow_eq]
      omega
    have same : significandOfMagnitude (scale * 2 ^ 52 + significand) = significand := by
      rw [significandOfMagnitude, Nat.pow_eq, if_pos (by omega), unscaled]
      omega
    rw [none, same, unscaled]
  · have normal' : ¬scale * 2 ^ 52 + significand < Nat.pow 2 52 := by
      rw [Nat.pow_eq]
      omega
    rcases Nat.lt_or_eq_of_le short with inside | last
    · have kept : scaleOfMagnitude (scale * 2 ^ 52 + significand) = scale := by
        rw [scaleOfMagnitude, Nat.pow_eq]
        omega
      have same : significandOfMagnitude (scale * 2 ^ 52 + significand) = significand := by
        rw [significandOfMagnitude, if_neg normal', Nat.pow_eq]
        omega
      rw [kept, same]
    · have next : scaleOfMagnitude (scale * 2 ^ 52 + significand) = scale + 1 := by
        rw [scaleOfMagnitude, Nat.pow_eq]
        omega
      have first : significandOfMagnitude (scale * 2 ^ 52 + significand) = 2 ^ 52 := by
        rw [significandOfMagnitude, if_neg normal', Nat.pow_eq]
        omega
      rw [next, first, last, Nat.pow_succ 2 scale]
      omega

/-- The next magnitude is one spacing away. -/
theorem unitsOfMagnitude_succ (bits : Nat) :
    unitsOfMagnitude (bits + 1) = unitsOfMagnitude bits + 2 ^ scaleOfMagnitude bits := by
  have lead := scaleOfMagnitude_eq_zero_or bits
  have next : bits + 1 = scaleOfMagnitude bits * 2 ^ 52 + (significandOfMagnitude bits + 1) := by
    rw [← Nat.add_assoc, scale_add_significand]
  rw [next, unitsOfMagnitude_of_parts (by omega) (significandOfMagnitude_lt bits), Nat.succ_mul]
  rfl

/-- Larger magnitudes have more units, also across a change of scale. -/
theorem unitsOfMagnitude_strictMono : StrictMono unitsOfMagnitude := by
  refine strictMono_nat_of_lt_succ fun bits => ?_
  rw [unitsOfMagnitude_succ]
  exact Nat.lt_add_of_pos_right (Nat.two_pow_pos _)

theorem unitsOfMagnitude_zero : unitsOfMagnitude 0 = 0 := by
  rfl

/-! ## The parts of a double -/

/-- The bits of the significand of a double, without the leading one. -/
def significandBits (x : Float) : BitVec 52 :=
  @unpackMantissa .binary64 x.toBits.toBitVec

theorem toNat_significandBits (x : Float) : (significandBits x).toNat = magnitude x % 2 ^ 52 := by
  have low : (significandBits x).toNat = x.toBits.toNat % 2 ^ 52 := by
    rw [significandBits, UnpackedFloat.unpackMantissa_def]
    exact BitVec.extractLsb'_toNat _ _ _
  rw [low, magnitude, Nat.pow_eq]
  omega

def sign (x : Float) : Sign :=
  if isNegative x then .negative else .positive

theorem ofBitVec_unpackSign (x : Float) :
    Sign.ofBitVec (@unpackSign .binary64 x.toBits.toBitVec) = sign x := by
  have small : x.toBits.toNat < 2 ^ 64 := x.toBits.toBitVec.isLt
  have high : (@unpackSign .binary64 x.toBits.toBitVec).toNat = x.toBits.toNat / 2 ^ 63 % 2 := by
    rw [UnpackedFloat.unpackSign_def, BitVec.extractLsb'_toNat, Nat.shiftRight_eq_div_pow]
    rfl
  rw [Sign.ofBitVec, sign, isNegative, Nat.pow_eq]
  by_cases negative : 2 ^ 63 ≤ x.toBits.toNat
  · have one : ¬@unpackSign .binary64 x.toBits.toBitVec = 0#1 := by
      intro zero
      rw [zero, BitVec.toNat_ofNat] at high
      omega
    rw [if_neg one, if_pos (decide_eq_true negative)]
  · have zero : @unpackSign .binary64 x.toBits.toBitVec = 0#1 := by
      apply BitVec.eq_of_toNat_eq
      rw [high, BitVec.toNat_ofNat]
      omega
    rw [if_pos zero, if_neg (by simpa using negative)]

theorem unpack_of_magnitude_eq_zero (none : magnitude x = 0) :
    x.toModel.unpack = .zero (sign x) := by
  have exponent : @unpackExponent .binary64 x.toModel.toBits.toBitVec = 0#11 := by
    apply BitVec.eq_of_toNat_eq
    exact (toNat_exponentBits x).trans (by rw [none]; rfl)
  have significand : @unpackMantissa .binary64 x.toModel.toBits.toBitVec = 0#52 := by
    apply BitVec.eq_of_toNat_eq
    exact (toNat_significandBits x).trans (by rw [none]; rfl)
  rw [← ofBitVec_unpackSign, Float.Model.unpack, UnpackedFloat.unpack]
  simp only [exponent, significand]
  rfl

/-- The machine takes a finite double apart as a reading does. -/
theorem unpack_of_finite (finite : magnitude x < infinityMagnitude) (some : magnitude x ≠ 0) :
    ∃ positive, x.toModel.unpack =
      .finite (sign x) (significandOfMagnitude (magnitude x))
        (scaleOfMagnitude (magnitude x) - 1074) positive := by
  have exponent := toNat_exponentBits x
  have significand := toNat_significandBits x
  have atExponent : @unpackExponent .binary64 x.toModel.toBits.toBitVec = exponentBits x := rfl
  have atSignificand : @unpackMantissa .binary64 x.toModel.toBits.toBitVec = significandBits x :=
    rfl
  rw [infinityMagnitude] at finite
  have below : exponentBits x ≠ -1#11 := by
    intro greatest
    rw [greatest, show (-1#11).toNat = 2047 from rfl] at exponent
    omega
  rw [← ofBitVec_unpackSign, Float.Model.unpack, UnpackedFloat.unpack]
  simp only [atExponent, atSignificand, if_neg below]
  rcases Nat.lt_or_ge (magnitude x) (2 ^ 52) with subnormal | normal
  · have least : exponentBits x = 0#11 := by
      apply BitVec.eq_of_toNat_eq
      rw [exponent, Nat.div_eq_of_lt subnormal]
      rfl
    have nonzero : significandBits x ≠ 0#52 := by
      intro none
      rw [none, BitVec.toNat_ofNat] at significand
      omega
    have scale : scaleOfMagnitude (magnitude x) = 0 := by
      rw [scaleOfMagnitude, Nat.pow_eq, Nat.div_eq_of_lt subnormal]
    have same : significandOfMagnitude (magnitude x) = (significandBits x).toNat := by
      rw [significandOfMagnitude_of_subnormal subnormal, significand, Nat.mod_eq_of_lt subnormal]
    simp only [if_pos least, dif_neg nonzero, same, scale]
    refine ⟨Nat.pos_of_ne_zero (by simpa [BitVec.toNat_eq] using nonzero), ?_⟩
    rw [least]
    rfl
  · have above : exponentBits x ≠ 0#11 := by
      intro least
      rw [least, BitVec.toNat_ofNat] at exponent
      omega
    have length : (1#1 ++ significandBits x).toNat = 2 ^ 52 + magnitude x % 2 ^ 52 := by
      rw [BitVec.toNat_append, ← Nat.shiftLeft_add_eq_or_of_lt (significandBits x).isLt,
        significand]
      rfl
    have scale : (exponentBits x).toNat - (1023 + 52 : Int) =
        scaleOfMagnitude (magnitude x) - 1074 := by
      rw [exponent, scaleOfMagnitude, Nat.pow_eq]
      omega
    simp only [if_neg above, length, significandOfMagnitude_of_normal normal]
    refine ⟨by omega, ?_⟩
    rw [← scale]
    rfl

/-! ## Values -/

/-- The exact value of a double; zero for what is not finite. -/
def value (x : Float) : ℚ :=
  match x.toModel.unpack with
  | .finite sign mantissa exponent _ => sign.apply mantissa * 2 ^ exponent
  | _ => 0

/-- The units of a finite double with its sign. -/
def signedUnits (x : Float) : Int :=
  signed (isNegative x) (unitsOfMagnitude (magnitude x))

/-- The finite doubles are those with a magnitude below that of infinity. -/
theorem isFinite_iff : x.isFinite ↔ magnitude x < infinityMagnitude := by
  constructor
  · intro finite
    obtain ⟨negative, units, reading⟩ := read_of_isFinite finite
    exact (of_read_finite reading).1
  · intro within
    rw [isFinite_eq_unpack]
    by_cases none : magnitude x = 0
    · rw [unpack_of_magnitude_eq_zero none]
      rfl
    · obtain ⟨positive, unpacked⟩ := unpack_of_finite within none
      rw [unpacked]
      rfl

theorem read_eq (finite : x.isFinite) :
    read x = .finite (isNegative x) (unitsOfMagnitude (magnitude x)) := by
  have within := isFinite_iff.mp finite
  rw [read, if_neg (Nat.lt_asymm within), if_neg (Nat.ne_of_lt within)]

theorem apply_sign (x : Float) (absolute : Nat) :
    (sign x).apply absolute = signed (isNegative x) absolute := by
  rw [sign, signed]
  split
  · rfl
  · rfl

theorem signed_zero (negative : Bool) : signed negative 0 = 0 := by
  cases negative with
  | false => rfl
  | true => rfl

theorem signed_mul (negative : Bool) (absolute factor : Nat) :
    signed negative (absolute * factor) = signed negative absolute * factor := by
  cases negative with
  | false => exact Int.natCast_mul absolute factor
  | true => exact (congrArg Neg.neg (Int.natCast_mul absolute factor)).trans (Int.neg_mul _ _).symm

theorem natAbs_signed (negative : Bool) (absolute : Nat) :
    (signed negative absolute).natAbs = absolute := by
  cases negative with
  | false => exact Int.natAbs_natCast absolute
  | true => exact (Int.natAbs_neg _).trans (Int.natAbs_natCast absolute)

theorem signedUnits_eq_zero_iff : signedUnits x = 0 ↔ magnitude x = 0 := by
  rw [← Int.natAbs_eq_zero, signedUnits, natAbs_signed]
  constructor
  · exact unitsOfMagnitude_eq_zero
  · intro none
    rw [none, unitsOfMagnitude_zero]

theorem unitsPerOne_pos : (0 : ℚ) < unitsPerOne := by
  unfold unitsPerOne
  generalize 1074 = exponent
  exact Nat.cast_pos.mpr (Nat.two_pow_pos exponent)

theorem zpow_two (exponent : Nat) : (2 : ℚ) ^ (exponent : Int) = (Nat.pow 2 exponent : Nat) := by
  rw [zpow_natCast, Nat.pow_eq, Nat.cast_pow, Nat.cast_ofNat]

/-- Exponents of the machine count from one, scales from the unit. -/
theorem zpow_scale (scale : Nat) :
    (2 : ℚ) ^ (scale - 1074 : Int) = (Nat.pow 2 scale : Nat) / unitsPerOne := by
  unfold unitsPerOne
  change (2 : ℚ) ^ (scale - (1074 : Nat) : Int) = _
  generalize 1074 = exponent
  rw [zpow_sub₀ (two_ne_zero' ℚ), zpow_two, zpow_two]

/-- The exact value in terms of the smallest units, the sign included. -/
theorem value_of_isFinite (finite : x.isFinite) : value x = signedUnits x / unitsPerOne := by
  rw [signedUnits, value]
  by_cases none : magnitude x = 0
  · rw [unpack_of_magnitude_eq_zero none, none, unitsOfMagnitude_zero, signed_zero, Int.cast_zero,
      zero_div]
  · obtain ⟨positive, unpacked⟩ := unpack_of_finite (isFinite_iff.mp finite) none
    rw [unpacked, unitsOfMagnitude, signed_mul, ← apply_sign, Int.cast_mul, Int.cast_natCast,
      mul_div_assoc, ← zpow_scale]

/-- Values are compared by their units. -/
theorem value_lt_iff (finite : x.isFinite) (finite' : y.isFinite) :
    value x < value y ↔ signedUnits x < signedUnits y := by
  rw [value_of_isFinite finite, value_of_isFinite finite',
    div_lt_div_iff_of_pos_right unitsPerOne_pos, Int.cast_lt]

theorem unitsOfMagnitude_pos (some : bits ≠ 0) : 0 < unitsOfMagnitude bits :=
  Nat.pos_of_ne_zero (mt unitsOfMagnitude_eq_zero some)

/-- The scale counts more than the significand when magnitudes are compared. -/
theorem compare_parts (bits other : Nat) :
    (compare (scaleOfMagnitude bits - 1074 : Int) (scaleOfMagnitude other - 1074)).then
        (compare (significandOfMagnitude bits) (significandOfMagnitude other)) =
      compare (unitsOfMagnitude bits : Int) (unitsOfMagnitude other) := by
  have whole := scale_add_significand bits
  have whole' := scale_add_significand other
  have short := significandOfMagnitude_lt bits
  have short' := significandOfMagnitude_lt other
  have lead := scaleOfMagnitude_eq_zero_or bits
  have lead' := scaleOfMagnitude_eq_zero_or other
  rcases Nat.lt_trichotomy bits other with less | rfl | more
  · have units : (unitsOfMagnitude bits : Int) < unitsOfMagnitude other :=
      Int.ofNat_lt.mpr (unitsOfMagnitude_strictMono less)
    rw [compare_lt_iff_lt.mpr units, Ordering.then_eq_lt, compare_lt_iff_lt, compare_eq_iff_eq,
      compare_lt_iff_lt]
    omega
  · rw [compare_eq_iff_eq.mpr rfl, compare_eq_iff_eq.mpr rfl, compare_eq_iff_eq.mpr rfl]
    rfl
  · have units : (unitsOfMagnitude other : Int) < unitsOfMagnitude bits :=
      Int.ofNat_lt.mpr (unitsOfMagnitude_strictMono more)
    rw [compare_gt_iff_gt.mpr units, Ordering.then_eq_gt, compare_gt_iff_gt, compare_eq_iff_eq,
      compare_gt_iff_gt]
    omega

theorem swap_compare (a b : Int) : (compare a b).swap = compare (-a) (-b) := by
  rcases Int.lt_trichotomy a b with less | rfl | more
  · rw [compare_lt_iff_lt.mpr less, compare_gt_iff_gt.mpr (Int.neg_lt_neg less)]
    rfl
  · rw [compare_eq_iff_eq.mpr rfl, compare_eq_iff_eq.mpr rfl]
    rfl
  · rw [compare_gt_iff_gt.mpr more, compare_lt_iff_lt.mpr (Int.neg_lt_neg more)]
    rfl

/-- The machine compares finite doubles by their values. -/
theorem compare_of_isFinite (finite : x.isFinite) (finite' : y.isFinite) :
    UnpackedFloat.compare x.toModel.unpack y.toModel.unpack =
      some (compare (signedUnits x) (signedUnits y)) := by
  rw [signedUnits, signedUnits]
  by_cases none : magnitude x = 0
  · rw [unpack_of_magnitude_eq_zero none, none, unitsOfMagnitude_zero, signed_zero]
    by_cases none' : magnitude y = 0
    · rw [unpack_of_magnitude_eq_zero none', none', unitsOfMagnitude_zero, signed_zero]
      rfl
    · obtain ⟨_, unpacked'⟩ := unpack_of_finite (isFinite_iff.mp finite') none'
      have above' := Int.natCast_pos.mpr (unitsOfMagnitude_pos none')
      simp only [unpacked', sign]
      cases isNegative y with
      | false => exact congrArg some (compare_lt_iff_lt.mpr above').symm
      | true => exact congrArg some (compare_gt_iff_gt.mpr (neg_neg_of_pos above')).symm
  · obtain ⟨_, unpacked⟩ := unpack_of_finite (isFinite_iff.mp finite) none
    have above := Int.natCast_pos.mpr (unitsOfMagnitude_pos none)
    by_cases none' : magnitude y = 0
    · rw [unpack_of_magnitude_eq_zero none', none', unitsOfMagnitude_zero, signed_zero]
      simp only [unpacked, sign]
      cases isNegative x with
      | false => exact congrArg some (compare_gt_iff_gt.mpr above).symm
      | true => exact congrArg some (compare_lt_iff_lt.mpr (neg_neg_of_pos above)).symm
    · obtain ⟨_, unpacked'⟩ := unpack_of_finite (isFinite_iff.mp finite') none'
      have above' := Int.natCast_pos.mpr (unitsOfMagnitude_pos none')
      have order := compare_parts (magnitude x) (magnitude y)
      simp only [unpacked, unpacked', sign]
      cases isNegative x with
      | false =>
          cases isNegative y with
          | false => exact congrArg some order
          | true =>
              have less := (neg_neg_of_pos above').trans above
              exact congrArg some (compare_gt_iff_gt.mpr less).symm
      | true =>
          cases isNegative y with
          | false =>
              have less := (neg_neg_of_pos above).trans above'
              exact congrArg some (compare_lt_iff_lt.mpr less).symm
          | true =>
              have swapped := (congrArg Ordering.swap order).trans (swap_compare _ _)
              exact congrArg some swapped

/-- The order of the machine on finite doubles is that of their values. -/
theorem le_iff_value (finite : x.isFinite) (finite' : y.isFinite) :
    x ≤ y ↔ value x ≤ value y := by
  rw [le_iff, compare_of_isFinite finite finite', value_of_isFinite finite,
    value_of_isFinite finite', div_le_div_iff_of_pos_right unitsPerOne_pos, Int.cast_le]
  exact Std.isLE_compare

/-- Finite doubles are equal to the machine if their values are, which makes the two zeros equal. -/
theorem beq_iff_value (finite : x.isFinite) (finite' : y.isFinite) :
    (x == y) = true ↔ value x = value y := by
  have compared : (x == y) =
      (UnpackedFloat.compare x.toModel.unpack y.toModel.unpack == some .eq) := rfl
  rw [compared, compare_of_isFinite finite finite', value_of_isFinite finite,
    value_of_isFinite finite', div_left_inj' unitsPerOne_pos.ne', Int.cast_inj, beq_iff_eq,
    Option.some_inj, compare_eq_iff_eq]

/-- Of the doubles with one value, only the zeros differ in the sign. -/
theorem eq_of_value_eq (finite : x.isFinite) (finite' : y.isFinite) (same : value x = value y)
    (sign : isNegative x = isNegative y) : x = y := by
  rw [value_of_isFinite finite, value_of_isFinite finite', div_left_inj' unitsPerOne_pos.ne',
    Int.cast_inj] at same
  have units := congrArg Int.natAbs same
  rw [signedUnits, signedUnits, natAbs_signed, natAbs_signed] at units
  rw [← ofMagnitude_magnitude x, ← ofMagnitude_magnitude y, sign,
    unitsOfMagnitude_strictMono.injective units]

theorem beq_zero_iff (finite : x.isFinite) : (x == zero) = true ↔ magnitude x = 0 := by
  have origin : value zero = 0 := rfl
  rw [beq_iff_value finite (by decide), origin, value_of_isFinite finite, div_eq_zero_iff,
    or_iff_left unitsPerOne_pos.ne', Int.cast_eq_zero, signedUnits_eq_zero_iff]

end Reckon.Double
