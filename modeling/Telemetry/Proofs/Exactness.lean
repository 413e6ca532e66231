import Telemetry.Proofs.Rounding
/-!
Integers among the binary floating point numbers. An integer whose size is at most two to the power
53 is one of the numbers, so that nothing is rounded when it is written as one and the same integer
is read back (`Binary64.toInt64_ofInt`). Of a larger one the number has the first 53 bits, rounded,
and what is read back is at most 512 away (`Binary64.toInt64_ofInt_near`).
-/

namespace Telemetry.Binary64

/-- The size up to which all integers are numbers. -/
def exactLimit : Nat := 2 ^ 53

/-! ### Magnitudes -/

theorem floorLog2_one {value power : Nat} (above : 2 ^ power ≤ value)
    (below : value < 2 ^ (power + 1)) : floorLog2 value 1 = power := by
  have positive : 0 < value := Nat.lt_of_lt_of_le (Nat.two_pow_pos power) above
  have low : (power : Int) ≤ floorLog2 value 1 :=
    le_floorLog2 Nat.one_pos (by rwa [Nat.one_mul])
  have high : floorLog2 value 1 < (power + 1 : Nat) :=
    floorLog2_lt positive Nat.one_pos (by rwa [Nat.one_mul])
  omega

theorem halfEven_one (value : Nat) : halfEven value 1 = value := by
  unfold halfEven
  simp only [Nat.div_one, Nat.mod_one]
  rw [if_neg (by omega)]

/-- The magnitude of an integer of at most 53 bits has all of them. -/
theorem magnitudeOfRatio_one {value power : Nat} (above : 2 ^ power ≤ value)
    (below : value < 2 ^ (power + 1)) (short : power ≤ 52) :
    magnitudeOfRatio value 1 = (power + 1022) * leadingWeight + value * 2 ^ (52 - power) := by
  have positive : 0 < value := Nat.lt_of_lt_of_le (Nat.two_pow_pos power) above
  have exponent : max ((power : Int) - 52) (-1074) = power - 52 := by omega
  have significant : (if 0 ≤ (power : Int) - 52 then
      halfEven value (1 * 2 ^ ((power : Int) - 52).toNat)
      else halfEven (value * 2 ^ (-((power : Int) - 52)).toNat) 1) = value * 2 ^ (52 - power) := by
    by_cases whole : 0 ≤ (power : Int) - 52
    · have full : power = 52 := by omega
      subst full
      rw [if_pos whole]
      exact (halfEven_one value).trans (Nat.mul_one value).symm
    · have shift : (-((power : Int) - 52)).toNat = 52 - power := by omega
      rw [if_neg whole, shift, halfEven_one]
  have aligned : value * 2 ^ (52 - power) < 2 * leadingWeight := by
    calc value * 2 ^ (52 - power)
        < 2 ^ (power + 1) * 2 ^ (52 - power) :=
          Nat.mul_lt_mul_of_pos_right below (Nat.two_pow_pos _)
      _ = 2 ^ (power + 1 + (52 - power)) := (Nat.pow_add ..).symm
      _ = 2 ^ 53 := by rw [show power + 1 + (52 - power) = 53 by omega]
      _ = 2 * leadingWeight := by decide
  have weight : (power + 1022) * leadingWeight ≤ 1074 * leadingWeight :=
    Nat.mul_le_mul_right _ (by omega)
  have finite : (power + 1022) * leadingWeight + value * 2 ^ (52 - power) ≤ infinite := by
    have limit : 1074 * leadingWeight + 2 * leadingWeight ≤ infinite := by decide
    omega
  unfold magnitudeOfRatio
  rw [if_neg (Nat.ne_of_gt positive), floorLog2_one above below]
  simp only [Nat.pow_eq]
  rw [exponent, significant, show ((power : Int) - 52 + 1074).toNat = power + 1022 by omega]
  exact Nat.min_eq_right finite

/-- A magnitude put together from a shift and significant bits of full length. -/
theorem ratio_of_parts {shift significant : Nat} (low : leadingWeight ≤ significant)
    (high : significant < 2 * leadingWeight) :
    ratio (shift * leadingWeight + significant) =
      if 1074 ≤ shift then (significant * 2 ^ (shift - 1074), 1)
      else (significant, 2 ^ (1074 - shift)) := by
  have positive : 0 < leadingWeight := by decide
  have split : shift * leadingWeight + significant =
      (significant - leadingWeight) + leadingWeight * (shift + 1) := by
    rw [Nat.mul_comm leadingWeight, Nat.succ_mul]
    omega
  have rest : significant - leadingWeight < leadingWeight := by omega
  have scaled : scale (shift * leadingWeight + significant) = shift := by
    rw [scale, split, Nat.add_mul_div_left _ _ positive, Nat.div_eq_of_lt rest]
    omega
  have whole : significand (shift * leadingWeight + significant) = significant := by
    rw [significand, if_neg (by omega), split, Nat.add_mul_mod_self_left, Nat.mod_eq_of_lt rest]
    omega
  unfold ratio
  simp only [scaled, whole, Nat.pow_eq]

/-- The magnitude of an integer that is not too large is the integer and no fraction. -/
theorem ratio_magnitudeOfRatio {value : Nat} (small : value ≤ exactLimit) :
    (ratio (magnitudeOfRatio value 1)).1 = value * (ratio (magnitudeOfRatio value 1)).2 := by
  rcases Nat.eq_zero_or_pos value with rfl | positive
  · rw [Nat.zero_mul]
    rfl
  · rcases Nat.eq_or_lt_of_le small with rfl | short
    · decide +kernel
    · have above : 2 ^ value.log2 ≤ value := Nat.log2_self_le (Nat.ne_of_gt positive)
      have below : value < 2 ^ (value.log2 + 1) := Nat.lt_log2_self
      have bits : value.log2 ≤ 52 :=
        Nat.lt_succ_iff.mp ((Nat.log2_lt (Nat.ne_of_gt positive)).mpr short)
      generalize value.log2 = power at above below bits
      have full : 2 ^ power * 2 ^ (52 - power) = leadingWeight := by
        rw [← Nat.pow_add, Nat.add_sub_cancel' bits]
        decide
      have low : leadingWeight ≤ value * 2 ^ (52 - power) :=
        full ▸ Nat.mul_le_mul_right _ above
      have high : value * 2 ^ (52 - power) < 2 * leadingWeight := by
        have scaled := Nat.mul_lt_mul_of_pos_right below (Nat.two_pow_pos (52 - power))
        rwa [Nat.pow_succ', Nat.mul_assoc, full] at scaled
      rw [magnitudeOfRatio_one above below bits, ratio_of_parts low high]
      by_cases whole : 1074 ≤ power + 1022
      · have last : power = 52 := by omega
        subst last
        rw [if_pos whole]
        simp
      · rw [if_neg whole, show 1074 - (power + 1022) = 52 - power by omega]

/-! ### Numbers -/

theorem magnitudeOfRatio_le_infinite (numerator denominator : Nat) :
    magnitudeOfRatio numerator denominator ≤ infinite := by
  unfold magnitudeOfRatio
  split
  · exact Nat.zero_le _
  · exact Nat.min_le_left _ _

theorem magnitude_ofInt (value : Int) :
    (ofInt value).magnitude = magnitudeOfRatio value.natAbs 1 :=
  magnitude_ofMagnitude _ <|
    Nat.lt_of_le_of_lt (magnitudeOfRatio_le_infinite value.natAbs 1) (by decide)

theorem negative_ofMagnitude (negative : Bool) (magnitude : Nat) :
    (ofMagnitude negative magnitude).negative = negative := by
  unfold ofMagnitude Binary64.negative
  rw [UInt64.toNat_ofNat']
  simp only [signWeight]
  cases negative with
  | false => exact decide_eq_false (by simp only [Bool.false_eq_true, if_false]; omega)
  | true => exact decide_eq_true (by simp only [if_true]; omega)

/-- An integer is always a number, if only infinity. -/
theorem isNaN_ofInt (value : Int) : (ofInt value).isNaN = false := by
  rw [isNaN, magnitude_ofInt]
  exact decide_eq_false (Nat.not_lt.mpr (magnitudeOfRatio_le_infinite _ _))

theorem magnitude_ofInt_lt {value : Int} (small : value.natAbs ≤ exactLimit) :
    (ofInt value).magnitude < infinite := by
  rw [magnitude_ofInt]
  have below : value.natAbs < 1 * 2 ^ 54 :=
    Nat.lt_of_le_of_lt small (by decide)
  exact Nat.lt_of_le_of_lt (magnitudeOfRatio_le Nat.one_pos below) (by decide)

theorem truncate_ofInt {value : Int} (small : value.natAbs ≤ exactLimit) :
    (ofInt value).truncate = value := by
  have whole : (ratio (ofInt value).magnitude).1 / (ratio (ofInt value).magnitude).2 =
      value.natAbs := by
    rw [magnitude_ofInt, ratio_magnitudeOfRatio small, Nat.mul_div_cancel _ (ratio_pos _)]
  have sign : (ofInt value).negative = decide (value < 0) := negative_ofMagnitude _ _
  unfold truncate
  simp only [whole, sign, decide_eq_true_eq]
  split <;> omega

/-- An integer that is written as a number without rounding is read back. -/
theorem toInt64_ofInt {value : Int64} (small : value.toInt.natAbs ≤ exactLimit) :
    (ofInt value.toInt).toInt64 = value := by
  have finite : (ofInt value.toInt).isInfinite = false :=
    decide_eq_false (Nat.ne_of_lt (magnitude_ofInt_lt small))
  have below := Int64.toInt_lt value
  have above := Int64.le_toInt value
  have least : Int64.minValue.toInt = -2 ^ 63 := rfl
  have greatest : Int64.maxValue.toInt = 2 ^ 63 - 1 := rfl
  have inside : max Int64.minValue.toInt (min Int64.maxValue.toInt value.toInt) =
      value.toInt := by omega
  unfold toInt64
  simp only [isNaN_ofInt, finite, Bool.false_eq_true, if_false, truncate_ofInt small, inside,
    Int64.ofInt_toInt]

/-- The one zero is read as every zero is. -/
theorem toInt64_of_magnitude {number : Binary64} (nothing : number.magnitude = 0) :
    number.toInt64 = 0 := by
  have present : number.isNaN = false := by
    rw [isNaN, nothing]
    rfl
  have finite : number.isInfinite = false := by
    rw [isInfinite, nothing]
    rfl
  have read : number.truncate = 0 := by
    have numerator : (ratio 0).1 = 0 := by decide
    unfold truncate
    simp only [nothing, numerator, Nat.zero_div]
    split <;> rfl
  unfold toInt64
  simp only [present, finite, Bool.false_eq_true, if_false, read]
  rfl

/-! ### Integers of more bits -/

/-- A rounded quotient is at most half a step away. -/
theorem halfEven_near (numerator : Nat) {denominator : Nat} (divides : 0 < denominator) :
    2 * (halfEven numerator denominator * denominator) ≤ 2 * numerator + denominator ∧
      2 * numerator ≤ 2 * (halfEven numerator denominator * denominator) + denominator := by
  have whole := Nat.div_add_mod numerator denominator
  have rest := Nat.mod_lt numerator divides
  have up : (numerator / denominator + 1) * denominator =
      denominator * (numerator / denominator) + denominator := by
    rw [Nat.add_mul, Nat.one_mul, Nat.mul_comm]
  unfold halfEven
  simp only
  split
  · rw [up]
    omega
  · rw [Nat.mul_comm (numerator / denominator)]
    omega

/-- The magnitude of an integer of at least 53 bits has as many of them as there is room for. -/
theorem magnitudeOfRatio_long {value power : Nat} (above : 2 ^ power ≤ value)
    (below : value < 2 ^ (power + 1)) (long : 52 ≤ power) (moderate : power ≤ 1000) :
    magnitudeOfRatio value 1 =
      (power + 1022) * leadingWeight + halfEven value (2 ^ (power - 52)) := by
  have positive : 0 < value := Nat.lt_of_lt_of_le (Nat.two_pow_pos power) above
  have exponent : max ((power : Int) - 52) (-1074) = power - 52 := by omega
  have shift : ((power : Int) - 52).toNat = power - 52 := by omega
  have steps : ((power : Int) - 52 + 1074).toNat = power + 1022 := by omega
  have short : value < 2 ^ (power - 52) * 2 ^ 53 := by
    rw [← Nat.pow_add, show power - 52 + 53 = power + 1 by omega]
    exact below
  have limit : (power + 1022) * leadingWeight + halfEven value (2 ^ (power - 52)) ≤ infinite := by
    have bits : halfEven value (2 ^ (power - 52)) ≤ 2 * leadingWeight := halfEven_le short
    have weight : (power + 1022) * leadingWeight ≤ 2022 * leadingWeight :=
      Nat.mul_le_mul_right _ (by omega)
    have most : 2022 * leadingWeight + 2 * leadingWeight ≤ infinite := by decide
    omega
  unfold magnitudeOfRatio
  rw [if_neg (Nat.ne_of_gt positive), floorLog2_one above below]
  simp only [Nat.pow_eq]
  rw [exponent, if_pos (by omega), shift, Nat.one_mul, steps]
  exact Nat.min_eq_right limit

/-- Its ratio is what was rounded, in steps of the power of two that there is no room for. -/
theorem ratio_magnitudeOfRatio_long {value power : Nat} (above : 2 ^ power ≤ value)
    (below : value < 2 ^ (power + 1)) (long : 52 ≤ power) (moderate : power ≤ 1000) :
    ratio (magnitudeOfRatio value 1) =
      (halfEven value (2 ^ (power - 52)) * 2 ^ (power - 52), 1) := by
  have least : leadingWeight ≤ halfEven value (2 ^ (power - 52)) := by
    apply le_halfEven (Nat.two_pow_pos _)
    have split : 2 ^ (power - 52) * leadingWeight = 2 ^ power := by
      rw [show leadingWeight = 2 ^ 52 by decide, ← Nat.pow_add, Nat.sub_add_cancel long]
    exact split ▸ above
  have most : halfEven value (2 ^ (power - 52)) ≤ 2 * leadingWeight := by
    apply halfEven_le
    rw [show 2 * leadingWeight = 2 ^ 53 by decide, ← Nat.pow_add,
      show power - 52 + 53 = power + 1 by omega]
    exact below
  rw [magnitudeOfRatio_long above below long moderate]
  generalize halfEven value (2 ^ (power - 52)) = significant at least most
  rcases Nat.lt_or_eq_of_le most with inside | carried
  · rw [ratio_of_parts least inside, if_pos (by omega),
      show power + 1022 - 1074 = power - 52 by omega]
  -- The rounding has carried into the next power of two.
  · have next : (power + 1022) * leadingWeight + significant =
        (power + 1023) * leadingWeight + leadingWeight := by
      rw [carried, Nat.succ_mul (power + 1022)]
      omega
    rw [next, ratio_of_parts (Nat.le_refl _) (by decide), if_pos (by omega), carried,
      show power + 1023 - 1074 = power - 52 + 1 by omega, Nat.pow_succ', ← Nat.mul_assoc,
      Nat.mul_comm leadingWeight 2]

/-- An integer that is written as a number and read back is at most 512 away. -/
theorem truncate_ofInt_near {value : Int} (inside : value.natAbs < 2 ^ 63) :
    (ofInt value).truncate ≤ value + 512 ∧ value ≤ (ofInt value).truncate + 512 := by
  rcases Nat.lt_or_ge exactLimit value.natAbs with large | small
  · have positive : value.natAbs ≠ 0 := Nat.ne_of_gt (Nat.lt_of_le_of_lt (Nat.zero_le _) large)
    have above : 2 ^ value.natAbs.log2 ≤ value.natAbs := Nat.log2_self_le positive
    have below : value.natAbs < 2 ^ (value.natAbs.log2 + 1) := Nat.lt_log2_self
    have bits : value.natAbs.log2 < 63 := (Nat.log2_lt positive).mpr inside
    have long : 53 ≤ value.natAbs.log2 := (Nat.le_log2 positive).mpr (Nat.le_of_lt large)
    generalize value.natAbs.log2 = power at above below bits long
    have step : 2 ^ (power - 52) ≤ 2 ^ 10 := Nat.pow_le_pow_right (by decide) (by omega)
    have near := halfEven_near value.natAbs (Nat.two_pow_pos (power - 52))
    have sign : (ofInt value).negative = decide (value < 0) := negative_ofMagnitude _ _
    have whole := ratio_magnitudeOfRatio_long above below (by omega) (by omega)
    unfold truncate
    simp only [magnitude_ofInt, whole, sign, decide_eq_true_eq, Nat.div_one]
    generalize halfEven value.natAbs (2 ^ (power - 52)) * 2 ^ (power - 52) = rounded at near
    split <;> omega
  · rw [truncate_ofInt small]
    omega

theorem isInfinite_ofInt {value : Int} (inside : value.natAbs < 2 ^ 64) :
    (ofInt value).isInfinite = false := by
  have bound : magnitudeOfRatio value.natAbs 1 ≤ (64 + 1023) * leadingWeight :=
    magnitudeOfRatio_le Nat.one_pos (by simpa using inside)
  have finite : (64 + 1023) * leadingWeight < infinite := by decide
  rw [isInfinite, magnitude_ofInt]
  exact decide_eq_false (Nat.ne_of_lt (Nat.lt_of_le_of_lt bound finite))

/-- A total that is written as a number is read back as a total that is at most 512 away. -/
theorem toInt64_ofInt_near (total : Int64) :
    (ofInt total.toInt).toInt64.toInt ≤ total.toInt + 512 ∧
      total.toInt ≤ (ofInt total.toInt).toInt64.toInt + 512 := by
  have below := Int64.toInt_lt total
  have above := Int64.le_toInt total
  have least : Int64.minValue.toInt = -2 ^ 63 := rfl
  have greatest : Int64.maxValue.toInt = 2 ^ 63 - 1 := rfl
  by_cases lowest : total = Int64.minValue
  · subst lowest
    decide +kernel
  · have inside : total.toInt.natAbs < 2 ^ 63 := by
      have other : total.toInt ≠ Int64.minValue.toInt :=
        fun same => lowest (Int64.toInt_inj.mp same)
      omega
    have near := truncate_ofInt_near inside
    unfold toInt64
    simp only [isNaN_ofInt, isInfinite_ofInt (Nat.lt_trans inside (by decide)),
      Bool.false_eq_true, if_false]
    generalize (ofInt total.toInt).truncate = read at near
    rw [Int64.toInt_ofInt_of_le (by omega) (by omega)]
    omega

end Telemetry.Binary64
