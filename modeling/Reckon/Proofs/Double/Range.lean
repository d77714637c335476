import Reckon.Proofs.Double.Rounding

/-!
# Rounding over the whole range

Quotients of natural numbers of any size are rounded to a double (`Double.isRounded_nearest`): to
zero up to half the least positive double, to infinity from half a spacing above the greatest finite
double on, and to the nearest double between them.  Both ends are places where the rounding goes on
to the next magnitude (`Double.roundedMagnitude_le_iff`).  Integers of 64 bits are far from both
(`Double.isNearest_ofInt`).  There is only one double that a number is rounded to
(`Double.IsRounded.unique`), and the greater of two numbers has the greater one
(`Double.IsRounded.mono`).
-/

namespace Reckon.Double

variable {x y : Float} {exact exact' : ℚ} {bits numerator denominator : Nat}

/-! ## Where the rounding goes on -/

/-- A quotient is rounded to a magnitude or a lesser one up to the middle between it and the next
one, and in the middle if its last bit is zero. -/
theorem roundedMagnitude_le_iff (positive : 0 < denominator) :
    roundedMagnitude numerator denominator ≤ bits ↔
      2 * (numerator * unitsPerOne) <
          (unitsOfMagnitude bits + unitsOfMagnitude (bits + 1)) * denominator ∨
        2 * (numerator * unitsPerOne) =
          (unitsOfMagnitude bits + unitsOfMagnitude (bits + 1)) * denominator ∧ bits % 2 = 0 := by
  have prevails := roundedMagnitude_prevails numerator positive
  have apart {lesser greater : Nat} (less : lesser < greater) :
      unitsOfMagnitude lesser * denominator < unitsOfMagnitude greater * denominator :=
    Nat.mul_lt_mul_of_pos_right (unitsOfMagnitude_strictMono less) positive
  rw [Nat.add_mul]
  generalize numerator * unitsPerOne = units at prevails ⊢
  generalize roundedMagnitude numerator denominator = rounded at prevails ⊢
  constructor
  · intro below
    have less : rounded < bits + 1 := Nat.lt_succ_of_le below
    obtain ⟨within, even⟩ := (prevails (bits + 1)).le_middle (Int.ofNat_lt.mpr (apart less))
    rcases Nat.lt_or_eq_of_le below with lesser | rfl
    · have distant := apart lesser
      omega
    · omega
  · intro within
    by_contra beyond
    have next := apart (Nat.lt_add_one bits)
    have more : bits + 1 ≤ rounded := by omega
    obtain ⟨behind, even⟩ := (prevails bits).middle_le (Int.ofNat_lt.mpr (apart more))
    rcases Nat.lt_or_eq_of_le more with greater | rfl
    · have distant := apart greater
      omega
    · omega

/-- The least number that is rounded to infinity: half a spacing above the greatest finite
double. -/
def overflow : ℚ :=
  2 ^ 1024 - 2 ^ 970

/-- The greatest number that is rounded to zero: half the least positive double. -/
def underflow : ℚ :=
  1 / 2 ^ 1075

theorem overflow_eq : overflow = ((2 ^ 54 - 1) * 2 ^ 970 : Nat) := by
  rw [Nat.cast_mul, Nat.cast_sub (Nat.one_le_two_pow), sub_mul, Nat.cast_pow, Nat.cast_pow,
    Nat.cast_one, one_mul]
  exact congrArg (· - _) (pow_add (2 : ℚ) 54 970)

theorem underflow_eq : underflow = 1 / (2 * unitsPerOne : Nat) := by
  have twice : (2 : ℚ) ^ 1075 = 2 ^ 1074 * 2 := pow_succ 2 1074
  rw [underflow, twice]
  unfold unitsPerOne
  generalize 1074 = unit
  rw [Nat.cast_mul, Nat.pow_eq, Nat.cast_pow, Nat.cast_ofNat, mul_comm]

/-- The middle between the greatest significand of a scale and the power of two behind it. -/
theorem units_beside (exponent : Nat) :
    unitsOfMagnitude ((exponent + 1 + 1074) * 2 ^ 52 + (2 ^ 53 - 1)) +
        unitsOfMagnitude ((exponent + 1 + 1074) * 2 ^ 52 + 2 ^ 53) =
      2 * ((2 ^ 54 - 1) * 2 ^ exponent * unitsPerOne) := by
  rw [unitsOfMagnitude_of_parts (Or.inr (by decide)) (by decide),
    unitsOfMagnitude_of_parts (Or.inr (by decide)) le_rfl, mul_pow_units, mul_pow_units,
    Nat.pow_succ]
  generalize unitsPerOne = units
  ring

/-- The exact bound from which on rounding goes to infinity, a tie included. -/
theorem nearestMagnitude_lt_iff (positive : 0 < denominator) :
    nearestMagnitude numerator denominator < infinityMagnitude ↔
      (numerator : ℚ) / denominator < overflow := by
  have divisor : (0 : ℚ) < denominator := Nat.cast_pos.mpr positive
  have units : 0 < unitsPerOne := Nat.cast_pos.mp unitsPerOne_pos
  have greatest : infinityMagnitude - 1 = (970 + 1 + 1074) * 2 ^ 52 + (2 ^ 53 - 1) := rfl
  have infinite : infinityMagnitude - 1 + 1 = (970 + 1 + 1074) * 2 ^ 52 + 2 ^ 53 := rfl
  have around := units_beside 970
  rw [← greatest, ← infinite] at around
  -- The greatest finite magnitude has a last bit of one, so that the middle belongs to infinity.
  rw [nearestMagnitude_eq, min_lt_iff, or_iff_left (lt_irrefl _), Nat.lt_iff_le_pred (by decide),
    roundedMagnitude_le_iff positive, around,
    or_iff_left fun middle => absurd middle.2 (by decide), div_lt_iff₀ divisor, overflow_eq,
    ← Nat.cast_mul, Nat.cast_lt]
  generalize (2 ^ 54 - 1) * 2 ^ 970 = bound
  rw [Nat.mul_assoc, Nat.mul_right_comm bound, Nat.mul_lt_mul_left (by decide),
    Nat.mul_lt_mul_right units]

/-- Up to half a unit a quotient is rounded to zero. -/
theorem nearestMagnitude_eq_zero_iff (positive : 0 < denominator) :
    nearestMagnitude numerator denominator = 0 ↔ (numerator : ℚ) / denominator ≤ underflow := by
  have divisor : (0 : ℚ) < denominator := Nat.cast_pos.mpr positive
  have scale : (0 : ℚ) < (2 * unitsPerOne : Nat) :=
    Nat.cast_pos.mpr (Nat.mul_pos Nat.two_pos (Nat.cast_pos.mp unitsPerOne_pos))
  have least : unitsOfMagnitude 0 + unitsOfMagnitude (0 + 1) = 1 := rfl
  have finite : nearestMagnitude numerator denominator = 0 ↔
      roundedMagnitude numerator denominator ≤ 0 := by
    rw [nearestMagnitude_eq, Nat.le_zero, Nat.min_eq_zero_iff]
    exact or_iff_left (by decide)
  rw [finite, roundedMagnitude_le_iff positive, least, Nat.one_mul, and_iff_left (Nat.zero_mod 2),
    ← Nat.le_iff_lt_or_eq, underflow_eq, div_le_div_iff₀ divisor scale, one_mul,
    ← Nat.cast_mul, Nat.cast_le, Nat.mul_left_comm]

/-! ## Rounding integers -/

theorem isNearest_ofInt {integer : Int} (small : integer.natAbs ≤ 2 ^ 64) :
    IsNearest integer (ofInt integer) := by
  have longer : 2 ^ 11 ≤ 2 ^ 970 := pow_le_pow_right₀ one_le_two (by decide)
  have within : integer.natAbs < (2 ^ 54 - 1) * 2 ^ 970 := by
    refine lt_of_lt_of_le ?_ (Nat.mul_le_mul_left _ longer)
    omega
  have finite : nearestMagnitude integer.natAbs 1 < infinityMagnitude := by
    rwa [nearestMagnitude_lt_iff Nat.one_pos, Nat.cast_one, div_one, overflow_eq, Nat.cast_lt]
  have some : decide (integer < 0) → integer.natAbs ≠ 0 := by
    intro below
    have := of_decide_eq_true below
    omega
  have rounded := isNearest_nearest (by decide) some finite
  rwa [signed_natAbs, Nat.cast_one, div_one] at rounded

/-! ## One nearest double -/

theorem abs_sub_lt_of_between {a b c exact : ℚ} (tie : |a - exact| = |b - exact|)
    (between : a < c ∧ c < b ∨ b < c ∧ c < a) : |c - exact| < |a - exact| := by
  have distinct : a ≠ b := by
    rintro rfl
    rcases between with ⟨above, below⟩ | ⟨above, below⟩
    · exact lt_asymm above below
    · exact lt_asymm above below
  have middle : a + b = 2 * exact := by
    rcases abs_eq_abs.mp tie with same | opposite
    · exact absurd (sub_left_injective same) distinct
    · linarith
  rcases between with ⟨above, below⟩ | ⟨above, below⟩
  · rw [abs_sub_comm a, abs_of_pos (by linarith : 0 < exact - a), abs_lt]
    constructor
    · linarith
    · linarith
  · rw [abs_of_pos (by linarith : 0 < a - exact), abs_lt]
    constructor
    · linarith
    · linarith

theorem signed_between (negative : Bool) {a b c : Nat} (above : a < c) (below : c < b) :
    signed negative a < signed negative c ∧ signed negative c < signed negative b ∨
      signed negative b < signed negative c ∧ signed negative c < signed negative a := by
  cases negative with
  | false => exact Or.inl ⟨Int.ofNat_lt.mpr above, Int.ofNat_lt.mpr below⟩
  | true =>
      right
      exact ⟨Int.neg_lt_neg (Int.ofNat_lt.mpr below), Int.neg_lt_neg (Int.ofNat_lt.mpr above)⟩

/-- Of two doubles that are nearest to a number, both with a last bit of zero, the one between them
would be nearer. -/
theorem IsNearest.magnitude_le (first : IsNearest exact x) (second : IsNearest exact y) :
    magnitude y ≤ magnitude x := by
  by_contra less
  have sign : Double.isNegative y = Double.isNegative x :=
    second.isNegative.trans first.isNegative.symm
  have tie : |value x - exact| = |value y - exact| :=
    le_antisymm (first.nearest y second.isFinite) (second.nearest x first.isFinite)
  have distinct : value y ≠ value x := by
    intro same
    rw [eq_of_value_eq second.isFinite first.isFinite same sign] at less
    exact less le_rfl
  have even := first.even y second.isFinite distinct tie.symm
  have even' := second.even x first.isFinite distinct.symm tie
  have within : magnitude x + 1 < infinityMagnitude := by
    have finite := isFinite_iff.mp second.isFinite
    omega
  let z := ofMagnitude (Double.isNegative x) (magnitude x + 1)
  have finite : z.isFinite := isFinite_ofMagnitude within
  have between : value x < value z ∧ value z < value y ∨ value y < value z ∧ value z < value x := by
    rw [value_lt_iff first.isFinite finite, value_lt_iff finite second.isFinite,
      value_lt_iff second.isFinite finite, value_lt_iff finite first.isFinite,
      signedUnits_ofMagnitude within, signedUnits, signedUnits, sign]
    exact signed_between _ (unitsOfMagnitude_strictMono (Nat.lt_add_one _))
      (unitsOfMagnitude_strictMono (by omega))
  exact (abs_sub_lt_of_between tie between).not_ge (first.nearest z finite)

/-- Even significands break every tie, so that at most one double is nearest. -/
theorem IsNearest.unique (first : IsNearest exact x) (second : IsNearest exact y) : x = y := by
  rw [← ofMagnitude_magnitude x, ← ofMagnitude_magnitude y, first.isNegative, second.isNegative,
    le_antisymm (second.magnitude_le first) (first.magnitude_le second)]

/-- The nearest doubles are in the order of the numbers. -/
theorem IsNearest.mono (first : IsNearest exact x) (second : IsNearest exact' y)
    (below : exact ≤ exact') : value x ≤ value y := by
  by_contra above
  have less : value y < value x := not_le.mp above
  have behind := middle_le_of_abs_le less (first.nearest y second.isFinite)
  have before := le_middle_of_abs_le less (second.nearest x first.isFinite)
  have same : exact' = exact := by linarith
  rw [same] at second
  exact above (first.unique second ▸ le_rfl)

/-! ## Rounding -/

/-- The double that a number from zero on is rounded to: the nearest one, zero from half the least
positive double on downward, and infinity from half a spacing above the greatest finite double
on. -/
structure IsRounded (exact : ℚ) (x : Float) : Prop where
  isNearest : exact < overflow → IsNearest exact x
  eq_infinity : overflow ≤ exact → x = infinity
  eq_zero_iff : x = zero ↔ exact ≤ underflow

theorem nearest_eq_infinity
    (infinite : ¬nearestMagnitude numerator denominator < infinityMagnitude) :
    nearest false numerator denominator = infinity := by
  have same : nearestMagnitude numerator denominator = infinityMagnitude := by
    have most := nearestMagnitude_eq numerator denominator
    omega
  rw [nearest, same]
  rfl

theorem nearest_eq_zero_iff :
    nearest false numerator denominator = zero ↔ nearestMagnitude numerator denominator = 0 := by
  constructor
  · intro isZero
    have finite : nearestMagnitude numerator denominator < infinityMagnitude := by
      by_contra infinite
      rw [nearest_eq_infinity infinite] at isZero
      exact absurd isZero (by decide)
    rw [← magnitude_ofMagnitude finite]
    exact congrArg magnitude isZero
  · intro none
    rw [nearest, none]
    rfl

/-- A quotient is rounded over the whole range, up to infinity and down to zero. -/
theorem isRounded_nearest (positive : 0 < denominator) :
    IsRounded (numerator / denominator) (nearest false numerator denominator) := by
  have finite : nearestMagnitude numerator denominator < infinityMagnitude ↔
      (numerator : ℚ) / denominator < overflow := nearestMagnitude_lt_iff positive
  constructor
  case isNearest =>
    intro small
    have rounded : IsNearest ((signed false numerator : Int) / denominator)
        (nearest false numerator denominator) := isNearest_nearest positive nofun (finite.mpr small)
    exact rounded
  case eq_infinity =>
    intro great
    exact nearest_eq_infinity (mt finite.mp (not_lt.mpr great))
  case eq_zero_iff => rw [nearest_eq_zero_iff, nearestMagnitude_eq_zero_iff positive]

/-- Rounding is a function of the exact value. -/
theorem IsRounded.unique (first : IsRounded exact x) (second : IsRounded exact y) : x = y := by
  by_cases small : exact < overflow
  · exact (first.isNearest small).unique (second.isNearest small)
  · rw [first.eq_infinity (not_lt.mp small), second.eq_infinity (not_lt.mp small)]

theorem IsRounded.kinds (isRounded : IsRounded exact x) : x = infinity ∨ x.isFinite := by
  by_cases small : exact < overflow
  · exact Or.inr (isRounded.isNearest small).isFinite
  · exact Or.inl (isRounded.eq_infinity (not_lt.mp small))

theorem IsRounded.isNaN_eq (isRounded : IsRounded exact x) : x.isNaN = false := by
  rcases isRounded.kinds with rfl | finite
  · rfl
  · exact isNaN_of_isFinite finite

theorem IsRounded.isNegative_eq (isRounded : IsRounded exact x) (above : 0 ≤ exact) :
    isNegative x = false := by
  by_cases small : exact < overflow
  · rw [(isRounded.isNearest small).isNegative, decide_eq_false above.not_gt]
  · rw [isRounded.eq_infinity (not_lt.mp small)]
    rfl

theorem IsRounded.mono (first : IsRounded exact x) (second : IsRounded exact' y)
    (below : exact ≤ exact') : x ≤ y := by
  by_cases small : exact' < overflow
  · have nearest := first.isNearest (lt_of_le_of_lt below small)
    have nearest' := second.isNearest small
    rw [le_iff_value nearest.isFinite nearest'.isFinite]
    exact nearest.mono nearest' below
  · rw [second.eq_infinity (not_lt.mp small)]
    apply le_infinity
    rintro rfl
    exact absurd first.isNaN_eq (by decide)

end Reckon.Double
