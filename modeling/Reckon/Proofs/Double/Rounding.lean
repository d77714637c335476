import Reckon.Proofs.Double.Value

/-!
# Rounding to the nearest double

A quotient is rounded to the nearest double, ties to even (`Double.isNearest_nearest`), as long as
it is not rounded to infinity.  Distances are compared as integers, multiplied by the divisor: first
those of the multiples of one spacing (`divRoundEven_prevails`), then those of the doubles, which
are spaced as the rounded one or wider, or are all below it (`rounded_prevails`).
-/

namespace Reckon.Double

open Float.Model (UnpackedFloat)

variable {x y : Float} {negative : Bool} {bits numerator denominator exponent : Nat}

/-! ## Candidates -/

/-- What is not nearer to the greater of two candidates is not behind the middle between them. -/
theorem le_middle_of_abs_le {α : Type} [CommRing α] [LinearOrder α] [IsStrictOrderedRing α]
    {exact candidate other : α} (less : candidate < other)
    (nearest : |candidate - exact| ≤ |other - exact|) : 2 * exact ≤ candidate + other := by
  by_contra behind
  apply nearest.not_gt
  have before : 0 ≤ exact - candidate := by linarith
  rw [abs_sub_comm candidate, abs_of_nonneg before, abs_lt]
  constructor
  · linarith
  · linarith

theorem middle_le_of_abs_le {α : Type} [CommRing α] [LinearOrder α] [IsStrictOrderedRing α]
    {exact candidate other : α} (more : other < candidate)
    (nearest : |candidate - exact| ≤ |other - exact|) : candidate + other ≤ 2 * exact := by
  rw [← neg_sub_neg, ← neg_sub_neg exact, abs_sub_comm, abs_sub_comm (-exact)] at nearest
  have turned := le_middle_of_abs_le (neg_lt_neg more) nearest
  linarith

/-- One candidate for the rounding of an exact integer prevails over another: it is no farther
away, and if the other one is as near it is an even one. -/
structure Prevails (exact candidate : Int) (isEven : Prop) (other : Int) : Prop where
  nearest : |candidate - exact| ≤ |other - exact|
  even : other ≠ candidate → |other - exact| = |candidate - exact| → isEven

section Prevails

variable {exact candidate other : Int} {isEven : Prop}

theorem Prevails.refl (exact candidate : Int) (isEven : Prop) :
    Prevails exact candidate isEven candidate :=
  ⟨le_rfl, fun distinct => absurd rfl distinct⟩

theorem Prevails.neg (prevails : Prevails exact candidate isEven other) :
    Prevails (-exact) (-candidate) isEven (-other) := by
  obtain ⟨nearest, even⟩ := prevails
  constructor
  · rwa [neg_sub_neg, neg_sub_neg, abs_sub_comm exact, abs_sub_comm exact]
  · intro distinct tie
    rw [neg_sub_neg, neg_sub_neg, abs_sub_comm exact, abs_sub_comm exact] at tie
    exact even (fun same => distinct (congrArg Neg.neg same)) tie

/-- What prevails over zero prevails over all that lies behind it. -/
theorem Prevails.behind_zero (prevails : Prevails exact candidate isEven 0) (above : 0 ≤ exact)
    (below : other ≤ 0) : Prevails exact candidate isEven other := by
  obtain ⟨nearest, even⟩ := prevails
  rw [zero_sub, abs_neg, abs_of_nonneg above] at nearest even
  have distance : |other - exact| = exact - other := by
    rw [abs_sub_comm, abs_of_nonneg (by omega)]
  constructor
  · omega
  · intro distinct tie
    have none : other = 0 := by omega
    subst none
    exact even distinct (by omega)

/-- A candidate prevails over a greater one as long as the exact integer is not behind the middle
between them. -/
theorem Prevails.le_middle (prevails : Prevails exact candidate isEven other)
    (less : candidate < other) :
    2 * exact ≤ candidate + other ∧ (2 * exact = candidate + other → isEven) := by
  obtain ⟨nearest, even⟩ := prevails
  refine ⟨le_middle_of_abs_le less nearest, fun middle => even less.ne' ?_⟩
  rw [abs_of_nonneg (by omega), abs_of_nonpos (by omega)]
  omega

/-- Half the distance decides between two neighbours, and the tie asks for an even one. -/
theorem Prevails.middle_le (prevails : Prevails exact candidate isEven other)
    (more : other < candidate) :
    candidate + other ≤ 2 * exact ∧ (2 * exact = candidate + other → isEven) := by
  obtain ⟨below, even⟩ := prevails.neg.le_middle (Int.neg_lt_neg more)
  exact ⟨by omega, fun middle => even (by omega)⟩

theorem Prevails.signed {exact candidate other : Nat} (negative negative' : Bool)
    (prevails : Prevails exact candidate isEven other)
    (origin : Prevails exact candidate isEven (0 : Nat)) :
    Prevails (signed negative exact) (signed negative candidate) isEven
      (signed negative' other) := by
  have behind : Prevails exact candidate isEven (-other) :=
    origin.behind_zero (Int.natCast_nonneg exact) (by omega)
  cases negative with
  | false =>
      cases negative' with
      | false => exact prevails
      | true => exact behind
  | true =>
      cases negative' with
      | false =>
          have turned := behind.neg
          rwa [neg_neg] at turned
      | true => exact prevails.neg

end Prevails

/-! ## Rounding a quotient to a whole number -/

theorem div_le_divRoundEven (numerator denominator : Nat) :
    numerator / denominator ≤ divRoundEven numerator denominator := by
  rw [divRoundEven]
  split
  · exact Nat.le_refl _
  · split
    · exact Nat.le_succ _
    · exact Nat.le_add_right _ _

theorem divRoundEven_le (numerator denominator : Nat) :
    divRoundEven numerator denominator ≤ numerator / denominator + 1 := by
  rw [divRoundEven]
  split
  · exact Nat.le_succ _
  · split
    · exact Nat.le_refl _
    · omega

/-- The rounded quotient is off by half at most, and by half only if it is even. -/
theorem divRoundEven_half (numerator : Nat) (positive : 0 < denominator) :
    2 * |(divRoundEven numerator denominator * denominator - numerator : Int)| ≤ denominator ∧
      (2 * |(divRoundEven numerator denominator * denominator - numerator : Int)| = denominator →
        divRoundEven numerator denominator % 2 = 0) := by
  have whole := Nat.div_add_mod' numerator denominator
  have small := Nat.mod_lt numerator positive
  rw [divRoundEven]
  generalize numerator / denominator = quotient at whole ⊢
  generalize numerator % denominator = rest at whole small ⊢
  have down : |(quotient * denominator - numerator : Int)| = rest := by
    have off : (quotient * denominator - numerator : Int) = -rest := by
      rw [← whole]
      push_cast
      ring
    rw [off, abs_neg, Nat.abs_cast]
  have up : |((quotient + 1 : Nat) * denominator - numerator : Int)| = denominator - rest := by
    have off : ((quotient + 1 : Nat) * denominator - numerator : Int) = denominator - rest := by
      rw [← whole]
      push_cast
      ring
    rw [off, abs_of_nonneg (by omega)]
  by_cases below : 2 * rest < denominator
  · rw [if_pos below, down]
    omega
  · rw [if_neg below]
    by_cases above : denominator < 2 * rest
    · rw [if_pos above, up]
      omega
    · rw [if_neg above]
      by_cases even : quotient % 2 = 0
      · rw [even, Nat.add_zero, down]
        omega
      · rw [show quotient % 2 = 1 by omega, up]
        omega

/-- No multiple of the divisor is nearer than that of the rounded quotient. -/
theorem divRoundEven_prevails (numerator : Nat) (positive : 0 < denominator) (other : Nat) :
    Prevails numerator (divRoundEven numerator denominator * denominator)
      (divRoundEven numerator denominator % 2 = 0) (other * denominator) := by
  obtain ⟨half, even⟩ := divRoundEven_half numerator positive
  generalize divRoundEven numerator denominator = rounded at half even ⊢
  by_cases same : other = rounded
  · rw [same]
    exact .refl _ _ _
  · have step : (1 : Int) ≤ |(other - rounded : Int)| := Int.one_le_abs (by omega)
    have apart : (denominator : Int) ≤ |(other * denominator - numerator : Int)| +
        |(rounded * denominator - numerator : Int)| := by
      calc (denominator : Int) = 1 * |(denominator : Int)| := by rw [one_mul, Nat.abs_cast]
        _ ≤ |(other - rounded : Int)| * |(denominator : Int)| :=
          mul_le_mul_of_nonneg_right step (abs_nonneg _)
        _ = |(other * denominator - numerator : Int) - (rounded * denominator - numerator)| := by
          rw [← abs_mul]
          congr 1
          ring
        _ ≤ _ := abs_sub _ _
    constructor
    · omega
    · intro _ tie
      apply even
      omega

/-! ## The spacing around a quotient -/

/-- Rounded to the spacing that leaves 53 bits in front of the point, a quotient may become one bit
longer, but only to a power of two. -/
theorem rounded_le (numerator denominator : Nat) :
    divRoundEven numerator (denominator * 2 ^ ((numerator / denominator).log2 - 52)) ≤ 2 ^ 53 := by
  have above := divRoundEven_le numerator
    (denominator * 2 ^ ((numerator / denominator).log2 - 52))
  rw [← Nat.div_div_eq_div_mul] at above
  generalize numerator / denominator = quotient at above ⊢
  have short : quotient / 2 ^ (quotient.log2 - 52) < 2 ^ 53 := by
    rw [Nat.div_lt_iff_lt_mul (Nat.two_pow_pos _), ← Nat.pow_add]
    calc quotient < 2 ^ (quotient.log2 + 1) := Nat.lt_log2_self
      _ ≤ 2 ^ (53 + (quotient.log2 - 52)) := Nat.pow_le_pow_right (by decide) (by omega)
  omega

theorem le_of_log2 (quotient : Nat) :
    quotient.log2 - 52 = 0 ∨ 2 ^ 52 * 2 ^ (quotient.log2 - 52) ≤ quotient := by
  by_cases unscaled : quotient.log2 - 52 = 0
  · exact Or.inl unscaled
  · right
    have some : quotient ≠ 0 := by
      intro none
      rw [none] at unscaled
      exact unscaled rfl
    calc 2 ^ 52 * 2 ^ (quotient.log2 - 52) = 2 ^ quotient.log2 := by
          rw [← Nat.pow_add]
          congr 1
          omega
      _ ≤ quotient := Nat.log2_self_le some

/-- Beyond the smallest scale what is rounded keeps its leading digit. -/
theorem lead_of_rounded (numerator denominator : Nat) :
    (numerator / denominator).log2 - 52 = 0 ∨ 2 ^ 52 ≤
      divRoundEven numerator (denominator * 2 ^ ((numerator / denominator).log2 - 52)) := by
  have below := div_le_divRoundEven numerator
    (denominator * 2 ^ ((numerator / denominator).log2 - 52))
  rw [← Nat.div_div_eq_div_mul] at below
  apply (le_of_log2 (numerator / denominator)).imp_right
  intro full
  exact ((Nat.le_div_iff_mul_le (Nat.two_pow_pos _)).mpr full).trans below

/-- A finite magnitude is a multiple of a spacing, or it is below all that fill 53 bits of it. -/
theorem multiple_or_lt (bits spacing : Nat) :
    (∃ multiple, unitsOfMagnitude bits = multiple * 2 ^ spacing) ∨
      spacing ≠ 0 ∧ unitsOfMagnitude bits < 2 ^ 52 * 2 ^ spacing := by
  by_cases within : spacing ≤ scaleOfMagnitude bits
  · left
    refine ⟨significandOfMagnitude bits * 2 ^ (scaleOfMagnitude bits - spacing), ?_⟩
    rw [unitsOfMagnitude, Nat.mul_assoc, ← Nat.pow_add, Nat.sub_add_cancel within, Nat.pow_eq]
  · right
    refine ⟨by omega, ?_⟩
    calc unitsOfMagnitude bits < 2 ^ 53 * 2 ^ (spacing - 1) := unitsOfMagnitude_lt (by omega)
      _ = 2 ^ 52 * 2 ^ spacing := by
        rw [← Nat.pow_add, ← Nat.pow_add]
        congr 1
        omega

/-- No magnitude is nearer to a quotient than the rounded one. -/
theorem rounded_prevails (numerator : Nat) (positive : 0 < denominator) (other : Nat) :
    let scale := (numerator / denominator).log2 - 52
    let rounded := divRoundEven numerator (denominator * 2 ^ scale)
    Prevails numerator (rounded * 2 ^ scale * denominator : Nat) (rounded % 2 = 0)
      (unitsOfMagnitude other * denominator : Nat) := by
  intro scale rounded
  have spaced : 0 < denominator * 2 ^ scale := Nat.mul_pos positive (Nat.two_pow_pos _)
  have regroup (count : Nat) : ((count * 2 ^ scale * denominator : Nat) : Int) =
      count * (denominator * 2 ^ scale : Nat) := by
    push_cast
    ring
  rw [regroup]
  -- What is spaced narrower lies below the quotient, and `2 ^ 52` spacings lie between them.
  obtain ⟨multiple, same⟩ | ⟨scaled, short⟩ := multiple_or_lt other scale
  · rw [same, regroup]
    exact divRoundEven_prevails numerator spaced multiple
  · have bound := (divRoundEven_prevails numerator spaced (2 ^ 52)).nearest
    have full : 2 ^ 52 * 2 ^ scale * denominator ≤ numerator := by
      have filled := (le_of_log2 (numerator / denominator)).resolve_left scaled
      rwa [Nat.le_div_iff_mul_le positive] at filled
    have below : unitsOfMagnitude other * denominator < 2 ^ 52 * 2 ^ scale * denominator :=
      Nat.mul_lt_mul_of_pos_right short positive
    have farther : |((2 ^ 52 : Nat) * (denominator * 2 ^ scale : Nat) - numerator : Int)| <
        |((unitsOfMagnitude other * denominator : Nat) - numerator : Int)| := by
      rw [← regroup, abs_sub_comm, abs_sub_comm _ (numerator : Int), abs_of_nonneg (by omega),
        abs_of_nonneg (by omega)]
      omega
    have nearer := lt_of_le_of_lt bound farther
    exact ⟨nearer.le, fun _ tie => absurd tie nearer.ne'⟩

/-! ## Doubles that are put together -/

/-- Words that are finite doubles come back from the machine. -/
theorem toBits_ofBits {word : UInt64} (finite : word.toNat % 2 ^ 63 < infinityMagnitude) :
    (Float.ofBits word).toBits = word := by
  have exponent : (@UnpackedFloat.unpackExponent .binary64 word.toBitVec).toNat =
      word.toNat / 2 ^ 52 % 2 ^ 11 := by
    rw [← Nat.shiftRight_eq_div_pow]
    rfl
  have isNumber : ¬@UnpackedFloat.isNaNBits .binary64 word.toBitVec := by
    intro isNaN
    rw [UnpackedFloat.isNaNBits, decide_eq_true_eq] at isNaN
    have greatest : 2047 = word.toNat / 2 ^ 52 % 2 ^ 11 :=
      (congrArg BitVec.toNat isNaN.1).symm.trans exponent
    rw [infinityMagnitude] at finite
    omega
  rw [← UInt64.toBitVec_inj]
  exact (@UnpackedFloat.pack_unpack .binary64 word.toBitVec (by decide)).trans (if_neg isNumber)

theorem toNat_toBits_ofMagnitude (finite : bits < infinityMagnitude) :
    (ofMagnitude negative bits).toBits.toNat = if negative then 2 ^ 63 + bits else bits := by
  rw [infinityMagnitude] at finite
  have word : (UInt64.ofNat (if negative then 2 ^ 63 + bits else bits)).toNat =
      if negative then 2 ^ 63 + bits else bits := by
    rw [UInt64.toNat_ofNat']
    apply Nat.mod_eq_of_lt
    split
    · omega
    · omega
  rw [ofMagnitude, Nat.pow_eq, toBits_ofBits, word]
  rw [word, infinityMagnitude]
  split
  · omega
  · omega

theorem magnitude_ofMagnitude (finite : bits < infinityMagnitude) :
    magnitude (ofMagnitude negative bits) = bits := by
  rw [magnitude, toNat_toBits_ofMagnitude finite, Nat.pow_eq]
  rw [infinityMagnitude] at finite
  split
  · omega
  · omega

theorem isNegative_ofMagnitude (finite : bits < infinityMagnitude) :
    isNegative (ofMagnitude negative bits) = negative := by
  rw [isNegative, toNat_toBits_ofMagnitude finite, Nat.pow_eq]
  rw [infinityMagnitude] at finite
  cases negative with
  | true => exact decide_eq_true (Nat.le_add_right _ _)
  | false => exact decide_eq_false (by simp; omega)

theorem signedUnits_ofMagnitude (finite : bits < infinityMagnitude) :
    signedUnits (ofMagnitude negative bits) = signed negative (unitsOfMagnitude bits) := by
  rw [signedUnits, magnitude_ofMagnitude finite, isNegative_ofMagnitude finite]

theorem isFinite_ofMagnitude (finite : bits < infinityMagnitude) :
    (ofMagnitude negative bits).isFinite :=
  isFinite_iff.mpr (by rwa [magnitude_ofMagnitude finite])

theorem value_ofMagnitude (finite : bits < infinityMagnitude) :
    value (ofMagnitude negative bits) = signed negative (unitsOfMagnitude bits) / unitsPerOne := by
  rw [value_of_isFinite (isFinite_ofMagnitude finite), signedUnits_ofMagnitude finite]

/-! ## The nearest double -/

/-- The double nearest to an exact value: no finite double is nearer, and where another one is as
near its last bit is zero.  It has the sign of the exact value, and the zero of zero is
positive. -/
structure IsNearest (exact : ℚ) (y : Float) : Prop where
  isFinite : y.isFinite
  nearest : ∀ z : Float, z.isFinite → |value y - exact| ≤ |value z - exact|
  even : ∀ z : Float, z.isFinite → value z ≠ value y → |value z - exact| = |value y - exact| →
    magnitude y % 2 = 0
  isNegative : isNegative y = decide (exact < 0)

/-- Distances from a quotient, counted in units and multiplied by the divisor. -/
theorem abs_value_sub (finite : x.isFinite) (positive : 0 < denominator) (numerator : Int) :
    |value x - numerator / denominator| =
      (|signedUnits x * denominator - numerator * unitsPerOne| : Int) /
        (unitsPerOne * denominator) := by
  have above := unitsPerOne_pos
  have below : (0 : ℚ) < denominator := Nat.cast_pos.mpr positive
  rw [value_of_isFinite finite]
  generalize unitsPerOne = units at above ⊢
  rw [div_sub_div _ _ above.ne' below.ne', abs_div, abs_of_pos (mul_pos above below), Int.cast_abs,
    Int.cast_sub, Int.cast_mul, Int.cast_mul, Int.cast_natCast, Int.cast_natCast,
    mul_comm (numerator : ℚ)]

/-- The magnitude that a quotient is rounded to if no magnitude is infinite. -/
def roundedMagnitude (numerator denominator : Nat) : Nat :=
  let units := numerator * unitsPerOne
  let scale := (units / denominator).log2 - 52
  scale * 2 ^ 52 + divRoundEven units (denominator * 2 ^ scale)

/-- What is rounded beyond the largest double is cut down to infinity. -/
theorem nearestMagnitude_eq (numerator denominator : Nat) :
    nearestMagnitude numerator denominator =
      min (roundedMagnitude numerator denominator) infinityMagnitude := by
  rw [nearestMagnitude, roundedMagnitude]
  simp only [Nat.pow_eq]

/-- The rounding of a quotient, in units. -/
theorem roundedMagnitude_prevails (numerator : Nat) (positive : 0 < denominator) (other : Nat) :
    Prevails (numerator * unitsPerOne : Nat)
      (unitsOfMagnitude (roundedMagnitude numerator denominator) * denominator : Nat)
      (roundedMagnitude numerator denominator % 2 = 0)
      (unitsOfMagnitude other * denominator : Nat) := by
  rw [roundedMagnitude]
  generalize numerator * unitsPerOne = units
  rw [unitsOfMagnitude_of_parts (lead_of_rounded units denominator) (rounded_le units denominator)]
  obtain ⟨nearest, even⟩ := rounded_prevails units positive other
  refine ⟨nearest, fun distinct tie => ?_⟩
  have low := even distinct tie
  omega

/-- The rounded magnitude is at least as near as any other, as distances of integers. -/
theorem nearestMagnitude_prevails (positive : 0 < denominator)
    (finite : nearestMagnitude numerator denominator < infinityMagnitude) (other : Nat) :
    Prevails (numerator * unitsPerOne : Nat)
      (unitsOfMagnitude (nearestMagnitude numerator denominator) * denominator : Nat)
      (nearestMagnitude numerator denominator % 2 = 0)
      (unitsOfMagnitude other * denominator : Nat) := by
  have same : nearestMagnitude numerator denominator = roundedMagnitude numerator denominator := by
    rw [nearestMagnitude_eq] at finite ⊢
    omega
  rw [same]
  exact roundedMagnitude_prevails numerator positive other

/-- The rounding of a quotient with a sign, in units. -/
theorem signedUnits_prevails (negative : Bool) (positive : 0 < denominator)
    (finite : nearestMagnitude numerator denominator < infinityMagnitude) (z : Float) :
    Prevails (signed negative numerator * unitsPerOne)
      (signedUnits (nearest negative numerator denominator) * denominator)
      (nearestMagnitude numerator denominator % 2 = 0) (signedUnits z * denominator) := by
  have prevails := nearestMagnitude_prevails positive finite
  have origin := prevails 0
  rw [unitsOfMagnitude_zero, Nat.zero_mul] at origin
  rw [nearest, signedUnits_ofMagnitude finite, signedUnits, ← signed_mul, ← signed_mul,
    ← signed_mul]
  exact (prevails (magnitude z)).signed negative (isNegative z) origin

/-- A quotient is rounded to the nearest double, unless that would be infinity. -/
theorem isNearest_nearest (positive : 0 < denominator) (some : negative → numerator ≠ 0)
    (finite : nearestMagnitude numerator denominator < infinityMagnitude) :
    IsNearest (signed negative numerator / denominator)
      (nearest negative numerator denominator) := by
  have isFinite : (nearest negative numerator denominator).isFinite := isFinite_ofMagnitude finite
  have divisor : (0 : ℚ) < denominator := Nat.cast_pos.mpr positive
  have scale : (0 : ℚ) < unitsPerOne * denominator := mul_pos unitsPerOne_pos divisor
  constructor
  case isFinite => exact isFinite
  case nearest =>
    intro z finite'
    rw [abs_value_sub finite' positive, abs_value_sub isFinite positive,
      div_le_div_iff_of_pos_right scale, Int.cast_le]
    exact (signedUnits_prevails negative positive finite z).nearest
  case even =>
    intro z finite' distinct tie
    rw [abs_value_sub finite' positive, abs_value_sub isFinite positive,
      div_left_inj' scale.ne', Int.cast_inj] at tie
    rw [nearest, magnitude_ofMagnitude finite]
    apply (signedUnits_prevails negative positive finite z).even _ tie
    intro same
    apply distinct
    have units := Int.eq_of_mul_eq_mul_right (Int.natCast_ne_zero.mpr positive.ne') same
    rw [value_of_isFinite finite', value_of_isFinite isFinite, units]
  case isNegative =>
    rw [nearest, isNegative_ofMagnitude finite]
    cases negative with
    | false =>
        have above : (0 : ℚ) ≤ signed false numerator := Int.cast_nonneg (Int.natCast_nonneg _)
        exact (decide_eq_false (div_nonneg above divisor.le).not_gt).symm
    | true =>
        have some' : (0 : Int) < numerator := Int.natCast_pos.mpr (Nat.pos_of_ne_zero (some rfl))
        have below : (signed true numerator : ℚ) < 0 := Int.cast_lt_zero.mpr (neg_neg_of_pos some')
        exact (decide_eq_true (div_neg_of_neg_of_pos below divisor)).symm

/-! ## What rounds to itself -/

/-- A rational that some finite double has as its value rounds to it. -/
theorem IsNearest.value_eq {exact : ℚ} (isNearest : IsNearest exact y) (finite : x.isFinite)
    (same : value x = exact) : value y = exact := by
  have nearer := isNearest.nearest x finite
  rw [same, sub_self, abs_zero] at nearer
  exact sub_eq_zero.mp (abs_nonpos_iff.mp nearer)

/-- Every number of 53 bits and a scale is that of a magnitude. -/
theorem exists_units (significand scale : Nat) (short : significand ≤ 2 ^ 53) :
    ∃ bits, unitsOfMagnitude bits = significand * 2 ^ scale := by
  induction scale generalizing significand with
  | zero => exact ⟨0 * 2 ^ 52 + significand, unitsOfMagnitude_of_parts (Or.inl rfl) short⟩
  | succ scale inductionHypothesis =>
      by_cases lead : 2 ^ 52 ≤ significand
      · exact ⟨(scale + 1) * 2 ^ 52 + significand, unitsOfMagnitude_of_parts (Or.inr lead) short⟩
      · obtain ⟨bits, units⟩ := inductionHypothesis (2 * significand) (by omega)
        refine ⟨bits, ?_⟩
        rw [units, Nat.pow_succ, Nat.mul_comm 2, Nat.mul_right_comm, Nat.mul_assoc]

theorem scaleOfMagnitude_le {scale : Nat} (short : unitsOfMagnitude bits ≤ 2 ^ 53 * 2 ^ scale) :
    scaleOfMagnitude bits ≤ scale + 1 := by
  rcases scaleOfMagnitude_eq_zero_or bits with unscaled | lead
  · omega
  · have filled : 2 ^ 52 * 2 ^ scaleOfMagnitude bits ≤ 2 ^ 53 * 2 ^ scale :=
      (Nat.mul_le_mul_right _ lead).trans short
    rw [← Nat.pow_add, ← Nat.pow_add, Nat.pow_le_pow_iff_right (by decide)] at filled
    omega

/-- Every short significand at a small scale is a magnitude. -/
theorem exists_magnitude (significand scale : Nat) (short : significand ≤ 2 ^ 53)
    (small : scale ≤ 2044) :
    ∃ bits < infinityMagnitude, unitsOfMagnitude bits = significand * 2 ^ scale := by
  obtain ⟨bits, units⟩ := exists_units significand scale short
  refine ⟨bits, ?_, units⟩
  have within := scaleOfMagnitude_le (units ▸ Nat.mul_le_mul_right (2 ^ scale) short)
  have parts := scale_add_significand bits
  have length := significandOfMagnitude_lt bits
  rw [infinityMagnitude]
  omega

theorem mul_pow_units (significand exponent : Nat) :
    significand * 2 ^ (exponent + 1074) = significand * 2 ^ exponent * unitsPerOne := by
  unfold unitsPerOne
  generalize 1074 = unit
  rw [Nat.pow_add, Nat.mul_assoc, Nat.pow_eq]

theorem signed_natAbs (integer : Int) : signed (decide (integer < 0)) integer.natAbs = integer := by
  rw [signed]
  by_cases below : integer < 0
  · rw [decide_eq_true below, if_pos rfl]
    omega
  · rw [decide_eq_false below, if_neg Bool.false_ne_true]
    omega

/-- An integer with a short significand is the value of a double, up to the largest scale. -/
theorem exists_value (negative : Bool) (significand exponent : Nat)
    (short : significand ≤ 2 ^ 53) (small : exponent ≤ 970) :
    ∃ x : Float, x.isFinite ∧ value x = signed negative (significand * 2 ^ exponent) := by
  obtain ⟨bits, finite, units⟩ := exists_magnitude significand (exponent + 1074) short (by omega)
  refine ⟨ofMagnitude negative bits, isFinite_ofMagnitude finite, ?_⟩
  rw [value_ofMagnitude finite, units, mul_pow_units, signed_mul, Int.cast_mul, Int.cast_natCast,
    mul_div_cancel_right₀ _ unitsPerOne_pos.ne']

end Reckon.Double
