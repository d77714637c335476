import Reckon.Proofs.Double.Range

/-!
# Integer parts in 64 bits

A finite double is truncated to its exact value rounded toward zero, saturated at the bounds of
64-bit integers.  Truncation is monotone, and an integer that it gave is not changed when it becomes
a double and is truncated once more (`Double.truncate_saturating`).  Of all that truncation gives,
only the greatest integer has no double of its own: it becomes the power of two behind it, which
saturates again.
-/

namespace Reckon.Double

variable {x y : Float} {integer : Int}

/-! ## Rounding toward zero -/

/-- The integer next to a rational on the side of zero. -/
def towardZero (exact : ℚ) : Int :=
  if exact < 0 then ⌈exact⌉ else ⌊exact⌋

theorem towardZero_intCast (integer : Int) : towardZero integer = integer := by
  rw [towardZero]
  split
  · exact Int.ceil_intCast integer
  · exact Int.floor_intCast integer

theorem floor_le_towardZero (exact : ℚ) : ⌊exact⌋ ≤ towardZero exact := by
  rw [towardZero]
  split
  · exact Int.floor_le_ceil exact
  · exact le_rfl

theorem towardZero_le_ceil (exact : ℚ) : towardZero exact ≤ ⌈exact⌉ := by
  rw [towardZero]
  split
  · exact le_rfl
  · exact Int.floor_le_ceil exact

/-- Cutting off the fraction keeps the order. -/
theorem towardZero_mono {exact other : ℚ} (below : exact ≤ other) :
    towardZero exact ≤ towardZero other := by
  rw [towardZero, towardZero]
  by_cases negative : other < 0
  · rw [if_pos negative, if_pos (lt_of_le_of_lt below negative)]
    exact Int.ceil_mono below
  · rw [if_neg negative]
    by_cases across : exact < 0
    · rw [if_pos across]
      calc ⌈exact⌉ ≤ 0 := Int.ceil_le.mpr (by exact_mod_cast across.le)
        _ ≤ ⌊other⌋ := Int.floor_nonneg.mpr (not_lt.mp negative)
    · rw [if_neg across]
      exact Int.floor_mono below

theorem towardZero_div (negative : Bool) (numerator denominator : Nat) :
    towardZero ((signed negative numerator : ℚ) / denominator) =
      signed negative (numerator / denominator) := by
  have above : (0 : ℚ) ≤ numerator / denominator := by positivity
  have down : ⌊(numerator : ℚ) / denominator⌋ = (numerator / denominator : Nat) :=
    Rat.floor_natCast_div_natCast numerator denominator
  cases negative with
  | false =>
      change towardZero (numerator / denominator) = _
      rw [towardZero, if_neg above.not_gt, down]
      rfl
  | true =>
      have turned : ((signed true numerator : Int) : ℚ) / denominator =
          -(numerator / denominator) := by
        rw [← neg_div]
        exact congrArg (· / _) (Int.cast_neg (numerator : Int))
      rw [turned, towardZero, Int.ceil_neg, down, signed, if_pos rfl, ite_eq_left_iff]
      intro none
      have zero : (numerator : ℚ) / denominator = 0 := by linarith
      rw [zero, neg_zero, Int.floor_zero]
      rw [zero, Int.floor_zero] at down
      omega

/-! ## Truncation -/

/-- A finite double is cut to an integer, and then to the ends of a word. -/
theorem truncate_of_isFinite (finite : x.isFinite) :
    truncate x = max leastWord (min greatestWord (towardZero (value x))) := by
  rw [truncate, read_eq finite, value_of_isFinite finite, signedUnits, towardZero_div]

theorem truncate_nan : truncate nan = 0 :=
  rfl

theorem truncate_infinity : truncate infinity = greatestWord :=
  rfl

theorem truncate_neg_infinity : truncate (-infinity) = leastWord :=
  rfl

theorem leastWord_le_truncate (x : Float) : leastWord ≤ truncate x := by
  rcases kinds x with rfl | rfl | rfl | finite
  · decide
  · decide
  · decide
  · rw [truncate_of_isFinite finite]
    exact le_max_left _ _

theorem truncate_le_greatestWord (x : Float) : truncate x ≤ greatestWord := by
  rcases kinds x with rfl | rfl | rfl | finite
  · decide
  · decide
  · decide
  · rw [truncate_of_isFinite finite]
    exact max_le (by decide) (min_le_left _ _)

theorem truncate_mono (order : x ≤ y) : truncate x ≤ truncate y := by
  rcases le_cases order with rfl | rfl | ⟨finite, finite'⟩
  · exact leastWord_le_truncate y
  · exact truncate_le_greatestWord x
  · rw [truncate_of_isFinite finite, truncate_of_isFinite finite']
    have values := (le_iff_value finite finite').mp order
    exact max_le_max_left _ (min_le_min_left _ (towardZero_mono values))

/-! ## Integers that become doubles again -/

theorem unitsOfMagnitude_le {bits : Nat} (fractional : scaleOfMagnitude bits ≤ 1074) :
    unitsOfMagnitude bits ≤ 2 ^ 53 * unitsPerOne := by
  unfold unitsPerOne
  generalize 1074 = top at fractional ⊢
  exact (unitsOfMagnitude_lt fractional).le

/-- A finite double is an integer, or it has no more than 53 bits in front of its point. -/
theorem integer_or_short (finite : x.isFinite) :
    (∃ integer : Int, value x = integer) ∨ |value x| ≤ 2 ^ 53 := by
  have positive := unitsPerOne_pos
  rw [value_of_isFinite finite, signedUnits]
  by_cases fractional : scaleOfMagnitude (magnitude x) ≤ 1074
  · right
    have short := unitsOfMagnitude_le fractional
    generalize unitsPerOne = units at short positive ⊢
    rw [abs_div, abs_of_pos positive, div_le_iff₀ positive, ← Int.cast_abs, Int.abs_eq_natAbs,
      natAbs_signed, Int.cast_natCast]
    exact_mod_cast short
  · left
    have whole : unitsOfMagnitude (magnitude x) =
        significandOfMagnitude (magnitude x) * 2 ^ (scaleOfMagnitude (magnitude x) - 1074) *
          unitsPerOne := by
      rw [← mul_pow_units, Nat.sub_add_cancel (by omega), unitsOfMagnitude, Nat.pow_eq]
    refine ⟨signed (isNegative x) (significandOfMagnitude (magnitude x) *
      2 ^ (scaleOfMagnitude (magnitude x) - 1074)), ?_⟩
    rw [whole, signed_mul, Int.cast_mul, Int.cast_natCast, mul_div_cancel_right₀ _ positive.ne']

/-- The integers next to a finite double, on both sides, are values of doubles. -/
theorem exists_value_between (finite : x.isFinite) (above : ⌊value x⌋ ≤ integer)
    (below : integer ≤ ⌈value x⌉) : ∃ z : Float, z.isFinite ∧ value z = integer := by
  rcases integer_or_short finite with ⟨whole, same⟩ | short
  · rw [same, Int.floor_intCast] at above
    rw [same, Int.ceil_intCast] at below
    exact ⟨x, finite, by rw [same, le_antisymm above below]⟩
  · obtain ⟨least, most⟩ := abs_le.mp short
    have least' : -2 ^ 53 ≤ ⌊value x⌋ := Int.le_floor.mpr (by exact_mod_cast least)
    have most' : ⌈value x⌉ ≤ 2 ^ 53 := Int.ceil_le.mpr (by exact_mod_cast most)
    obtain ⟨z, finite', same⟩ :=
      exists_value (decide (integer < 0)) integer.natAbs 0 (by omega) (by decide)
    rw [Nat.pow_zero, Nat.mul_one, signed_natAbs] at same
    exact ⟨z, finite', same⟩

/-- The integer part of a double is the value of a double, even where its integers have gaps. -/
theorem exists_value_towardZero (finite : x.isFinite) :
    ∃ z : Float, z.isFinite ∧ value z = towardZero (value x) :=
  exists_value_between finite (floor_le_towardZero _) (towardZero_le_ceil _)

theorem natAbs_le_of_word (above : leastWord ≤ integer) (below : integer ≤ greatestWord) :
    integer.natAbs ≤ 2 ^ 64 := by
  rw [leastWord, Nat.pow_eq] at above
  rw [greatestWord, Nat.pow_eq] at below
  omega

theorem truncate_ofInt (finite : x.isFinite) (same : value x = integer)
    (above : leastWord ≤ integer) (below : integer ≤ greatestWord) :
    truncate (ofInt integer) = integer := by
  have rounded := isNearest_ofInt (natAbs_le_of_word above below)
  rw [truncate_of_isFinite rounded.isFinite, rounded.value_eq finite same, towardZero_intCast,
    min_eq_right below, max_eq_right above]

/-- Truncating twice is truncating once, although a word may be rounded up between. -/
theorem truncate_ofInt_truncate (x : Float) : truncate (ofInt (truncate x)) = truncate x := by
  rcases kinds x with rfl | rfl | rfl | finite
  · decide +kernel
  · decide +kernel
  · decide +kernel
  · rw [truncate_of_isFinite finite]
    -- Only what saturates above is rounded on the way back, and it is rounded upward.
    by_cases below : towardZero (value x) < leastWord
    · rw [max_eq_left ((min_le_right _ _).trans below.le)]
      decide +kernel
    · by_cases above : greatestWord < towardZero (value x)
      · rw [min_eq_left above.le]
        decide +kernel
      · rw [min_eq_right (not_lt.mp above), max_eq_right (not_lt.mp below)]
        obtain ⟨z, finite', same⟩ := exists_value_towardZero finite
        exact truncate_ofInt finite' same (not_lt.mp below) (not_lt.mp above)

/-- The greatest word has no double of its own. -/
theorem ofInt_greatestWord : ofInt greatestWord = ofInt (2 ^ 63) := by
  decide +kernel

/-- The largest word is no double; the nearest one lies just above it. -/
theorem value_ofInt_greatestWord : value (ofInt greatestWord) = 2 ^ 63 := by
  obtain ⟨z, finite, same⟩ := exists_value false 1 63 (by decide) (by decide)
  have rounded : IsNearest (2 ^ 63 : Int) (ofInt (2 ^ 63)) := isNearest_ofInt (by decide)
  rw [ofInt_greatestWord, rounded.value_eq finite (same.trans (by norm_num [signed]))]
  norm_num

/-- Truncation saturates at the bounds of 64-bit integers, keeps the order of doubles, and is stable
under rounding back to a double. -/
theorem truncate_saturating :
    (∀ x : Float, x.isNaN → truncate x = 0) ∧
      truncate infinity = greatestWord ∧ truncate (-infinity) = leastWord ∧
      (∀ x : Float, x.isFinite →
        truncate x = max leastWord (min greatestWord (towardZero (value x)))) ∧
      (∀ x y : Float, x ≤ y → truncate x ≤ truncate y) ∧
      (∀ integer : Int, leastWord ≤ integer → integer ≤ greatestWord →
        IsNearest integer (ofInt integer)) ∧
      (∀ x : Float, truncate (ofInt (truncate x)) = truncate x) ∧
      value (ofInt greatestWord) = 2 ^ 63 := by
  refine ⟨?_, truncate_infinity, truncate_neg_infinity, ?_, ?_, ?_, truncate_ofInt_truncate,
    value_ofInt_greatestWord⟩
  · intro x isNaN
    rw [Float.isNaN_eq_decide_eq_nan, decide_eq_true_eq] at isNaN
    rw [isNaN]
    exact truncate_nan
  · intro x finite
    exact truncate_of_isFinite finite
  · intro x y order
    exact truncate_mono order
  · intro integer above below
    exact isNearest_ofInt (natAbs_le_of_word above below)

/-- The double next to the least 64-bit integer on the far side of zero. -/
def beyondLeastWord : Float := .ofBits 0xC3E0000000000001

def minusThreeHalves : Float := .ofBits 0xBFF8000000000000

theorem truncate_beyondLeastWord :
    nan.isNaN ∧ beyondLeastWord.isFinite ∧ beyondLeastWord ≤ minusThreeHalves ∧
      truncate nan = 0 ∧ truncate beyondLeastWord = leastWord ∧ truncate minusThreeHalves = -1 ∧
      truncate beyondLeastWord =
        max leastWord (min greatestWord (towardZero (value beyondLeastWord))) ∧
      truncate beyondLeastWord ≤ truncate minusThreeHalves ∧
      IsNearest greatestWord (ofInt greatestWord) := by
  have isNaN : nan.isNaN := by decide
  have finite : beyondLeastWord.isFinite := by decide
  have order : beyondLeastWord ≤ minusThreeHalves := by decide
  obtain ⟨ofNaN, -, -, clamped, monotone, rounded, -, -⟩ := truncate_saturating
  refine ⟨isNaN, finite, order, ofNaN nan isNaN, by decide +kernel, by decide +kernel, ?_, ?_, ?_⟩
  · exact clamped beyondLeastWord finite
  · exact monotone beyondLeastWord minusThreeHalves order
  · exact rounded greatestWord (by decide) le_rfl

end Reckon.Double
