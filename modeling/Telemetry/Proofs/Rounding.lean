import Mathlib.Algebra.Order.Ring.Nat
import Telemetry.Json.Record
/-!
Bounds of rounding by powers of two. A quotient below `2 ^ k` is rounded to a magnitude that is at
most that of `2 ^ k`, and one of at least `2 ^ k` to a magnitude that is at least that
(`Binary64.magnitudeOfRatio_le`, `Binary64.le_magnitudeOfRatio`). A numeral is read by one rounding
of its significand and one for each step of scaling, so that what is read off a document is always
finite (`Json.Numeral.isFinite_of_toBinary64?`).

A statement about a power of two with a negative exponent puts the power on the other side.
-/

namespace Telemetry

namespace Binary64

/-! ### Powers of two on two sides -/

section Powers

variable {left right first second other third : Nat}

theorem mul_pow_lt_of_le (less : left * 2 ^ first < right * 2 ^ second)
    (shifted : second + other ≤ third + first) : left * 2 ^ other < right * 2 ^ third := by
  have scaled : left * 2 ^ other * 2 ^ first < right * 2 ^ third * 2 ^ first := by
    calc left * 2 ^ other * 2 ^ first
        = left * 2 ^ first * 2 ^ other := Nat.mul_right_comm _ _ _
      _ < right * 2 ^ second * 2 ^ other := Nat.mul_lt_mul_of_pos_right less (Nat.two_pow_pos _)
      _ = right * 2 ^ (second + other) := by rw [Nat.mul_assoc, ← Nat.pow_add]
      _ ≤ right * 2 ^ (third + first) :=
          Nat.mul_le_mul_left _ (Nat.pow_le_pow_right (by decide) shifted)
      _ = right * 2 ^ third * 2 ^ first := by rw [Nat.pow_add, Nat.mul_assoc]
  exact Nat.lt_of_mul_lt_mul_right scaled

theorem mul_pow_le_of_le (atMost : left * 2 ^ first ≤ right * 2 ^ second)
    (shifted : second + other ≤ third + first) : left * 2 ^ other ≤ right * 2 ^ third := by
  have scaled : left * 2 ^ other * 2 ^ first ≤ right * 2 ^ third * 2 ^ first := by
    calc left * 2 ^ other * 2 ^ first
        = left * 2 ^ first * 2 ^ other := Nat.mul_right_comm _ _ _
      _ ≤ right * 2 ^ second * 2 ^ other := Nat.mul_le_mul_right _ atMost
      _ = right * 2 ^ (second + other) := by rw [Nat.mul_assoc, ← Nat.pow_add]
      _ ≤ right * 2 ^ (third + first) :=
          Nat.mul_le_mul_left _ (Nat.pow_le_pow_right (by decide) shifted)
      _ = right * 2 ^ third * 2 ^ first := by rw [Nat.pow_add, Nat.mul_assoc]
  exact Nat.le_of_mul_le_mul_right scaled (Nat.two_pow_pos _)

end Powers

/-! ### Logarithms -/

section Ratios

variable {numerator denominator : Nat}

/-- The first guess of the logarithm is exact or one too high. -/
theorem guess_bounds (positive : 0 < numerator) (divides : 0 < denominator) :
    numerator * 2 ^ denominator.log2 < denominator * 2 ^ (numerator.log2 + 1) ∧
      denominator * 2 ^ numerator.log2 ≤ numerator * 2 ^ (denominator.log2 + 1) := by
  have low := Nat.log2_self_le (Nat.ne_of_gt positive)
  have high := @Nat.lt_log2_self numerator
  have lowDivisor := Nat.log2_self_le (Nat.ne_of_gt divides)
  have highDivisor := @Nat.lt_log2_self denominator
  constructor
  · calc numerator * 2 ^ denominator.log2
        < 2 ^ (numerator.log2 + 1) * 2 ^ denominator.log2 :=
          Nat.mul_lt_mul_of_pos_right high (Nat.two_pow_pos _)
      _ ≤ 2 ^ (numerator.log2 + 1) * denominator := Nat.mul_le_mul_left _ lowDivisor
      _ = denominator * 2 ^ (numerator.log2 + 1) := Nat.mul_comm _ _
  · calc denominator * 2 ^ numerator.log2
        ≤ 2 ^ (denominator.log2 + 1) * 2 ^ numerator.log2 :=
          Nat.mul_le_mul_right _ (Nat.le_of_lt highDivisor)
      _ ≤ 2 ^ (denominator.log2 + 1) * numerator := Nat.mul_le_mul_left _ low
      _ = numerator * 2 ^ (denominator.log2 + 1) := Nat.mul_comm _ _

/-- A quotient stands between the power of two at its logarithm and the next one. -/
theorem floorLog2_bounds (positive : 0 < numerator) (divides : 0 < denominator) :
    denominator * 2 ^ (floorLog2 numerator denominator).toNat ≤
        numerator * 2 ^ (-floorLog2 numerator denominator).toNat ∧
      numerator * 2 ^ (-(floorLog2 numerator denominator + 1)).toNat <
        denominator * 2 ^ (floorLog2 numerator denominator + 1).toNat := by
  obtain ⟨below, above⟩ := guess_bounds positive divides
  unfold floorLog2
  simp only [Nat.pow_eq]
  generalize exponent : (numerator.log2 : Int) - (denominator.log2 : Int) = guess
  by_cases whole : 0 ≤ guess
  · simp only [if_pos whole]
    by_cases reached : denominator * 2 ^ guess.toNat ≤ numerator
    · rw [if_pos reached]
      constructor
      · have atMost : denominator * 2 ^ guess.toNat ≤ numerator * 2 ^ 0 := by
          simpa using reached
        exact mul_pow_le_of_le atMost (by omega)
      · exact mul_pow_lt_of_le below (by omega)
    · rw [if_neg reached]
      constructor
      · exact mul_pow_le_of_le above (by omega)
      · have less : numerator * 2 ^ 0 < denominator * 2 ^ guess.toNat := by
          simpa using Nat.lt_of_not_le reached
        exact mul_pow_lt_of_le less (by omega)
  · simp only [if_neg whole]
    by_cases reached : denominator ≤ numerator * 2 ^ (-guess).toNat
    · rw [if_pos reached]
      constructor
      · have atMost : denominator * 2 ^ 0 ≤ numerator * 2 ^ (-guess).toNat := by
          simpa using reached
        exact mul_pow_le_of_le atMost (by omega)
      · exact mul_pow_lt_of_le below (by omega)
    · rw [if_neg reached]
      constructor
      · exact mul_pow_le_of_le above (by omega)
      · have less : numerator * 2 ^ (-guess).toNat < denominator * 2 ^ 0 := by
          simpa using Nat.lt_of_not_le reached
        exact mul_pow_lt_of_le less (by omega)

theorem floorLog2_lt {power : Nat} (positive : 0 < numerator) (divides : 0 < denominator)
    (below : numerator < denominator * 2 ^ power) : floorLog2 numerator denominator < power := by
  obtain ⟨low, _high⟩ := floorLog2_bounds positive divides
  by_cases above : (power : Int) ≤ floorLog2 numerator denominator
  · have shifted : numerator * 2 ^ (-floorLog2 numerator denominator).toNat <
        denominator * 2 ^ (floorLog2 numerator denominator).toNat :=
      mul_pow_lt_of_le (by simpa using below : numerator * 2 ^ 0 < denominator * 2 ^ power)
        (by omega)
    omega
  · omega

theorem le_floorLog2 {power : Nat} (divides : 0 < denominator)
    (above : denominator * 2 ^ power ≤ numerator) :
    (power : Int) ≤ floorLog2 numerator denominator := by
  have positive : 0 < numerator :=
    Nat.lt_of_lt_of_le (Nat.mul_pos divides (Nat.two_pow_pos power)) above
  obtain ⟨_low, high⟩ := floorLog2_bounds positive divides
  by_cases below : floorLog2 numerator denominator + 1 ≤ power
  · have shifted : denominator * 2 ^ (floorLog2 numerator denominator + 1).toNat ≤
        numerator * 2 ^ (-(floorLog2 numerator denominator + 1)).toNat :=
      mul_pow_le_of_le (by simpa using above : denominator * 2 ^ power ≤ numerator * 2 ^ 0)
        (by omega)
    omega
  · omega

/-! ### Roundings -/

theorem halfEven_le {bound : Nat} (below : numerator < denominator * bound) :
    halfEven numerator denominator ≤ bound := by
  have quotient : numerator / denominator < bound := Nat.div_lt_of_lt_mul below
  unfold halfEven
  simp only
  split <;> omega

theorem le_halfEven {bound : Nat} (divides : 0 < denominator)
    (above : denominator * bound ≤ numerator) : bound ≤ halfEven numerator denominator := by
  have quotient : bound ≤ numerator / denominator :=
    (Nat.le_div_iff_mul_le divides).mpr (by rwa [Nat.mul_comm])
  unfold halfEven
  simp only
  split <;> omega

/-- A quotient below a power of two is rounded to at most the magnitude of that power. -/
theorem magnitudeOfRatio_le (divides : 0 < denominator) {power : Nat}
    (below : numerator < denominator * 2 ^ power) :
    magnitudeOfRatio numerator denominator ≤ (power + 1023) * leadingWeight := by
  unfold magnitudeOfRatio
  by_cases zero : numerator = 0
  · rw [if_pos zero]
    exact Nat.zero_le _
  · rw [if_neg zero]
    have positive := Nat.pos_of_ne_zero zero
    have logarithm := floorLog2_lt positive divides below
    obtain ⟨_low, high⟩ := floorLog2_bounds positive divides
    simp only [Nat.pow_eq]
    generalize floorLog2 numerator denominator = floor at logarithm high
    generalize chosen : max (floor - 52) (-1074) = exponent
    have significant : (if 0 ≤ exponent then
        halfEven numerator (denominator * 2 ^ exponent.toNat)
        else halfEven (numerator * 2 ^ (-exponent).toNat) denominator) ≤ 2 ^ 53 := by
      by_cases whole : 0 ≤ exponent
      · rw [if_pos whole]
        apply halfEven_le
        have less : numerator * 2 ^ 0 < denominator * 2 ^ (exponent.toNat + 53) :=
          mul_pow_lt_of_le high (by omega)
        rwa [Nat.pow_add, ← Nat.mul_assoc, Nat.pow_zero, Nat.mul_one] at less
      · rw [if_neg whole]
        exact halfEven_le (mul_pow_lt_of_le high (by omega))
    have steps : (exponent + 1074).toNat ≤ power + 1021 := by omega
    have weight : (exponent + 1074).toNat * leadingWeight ≤ (power + 1021) * leadingWeight :=
      Nat.mul_le_mul_right _ steps
    have double : 2 ^ 53 = 2 * leadingWeight := by decide
    have whole : (power + 1023) * leadingWeight =
        (power + 1021) * leadingWeight + 2 * leadingWeight := by rw [← Nat.add_mul]
    rw [whole]
    exact Nat.le_trans (Nat.min_le_right _ _) (Nat.add_le_add weight (double ▸ significant))

/-- A quotient of at least a power of two is rounded to at least the magnitude of that power. -/
theorem le_magnitudeOfRatio (divides : 0 < denominator) {power : Nat} (small : power ≤ 1023)
    (above : denominator * 2 ^ power ≤ numerator) :
    (power + 1023) * leadingWeight ≤ magnitudeOfRatio numerator denominator := by
  have positive : 0 < numerator :=
    Nat.lt_of_lt_of_le (Nat.mul_pos divides (Nat.two_pow_pos power)) above
  have logarithm := le_floorLog2 divides above
  obtain ⟨low, _high⟩ := floorLog2_bounds positive divides
  unfold magnitudeOfRatio
  rw [if_neg (Nat.ne_of_gt positive)]
  simp only [Nat.pow_eq]
  generalize floorLog2 numerator denominator = floor at logarithm low
  have chosen : max (floor - 52) (-1074) = floor - 52 := by omega
  rw [chosen]
  have significant : 2 ^ 52 ≤ (if 0 ≤ floor - 52 then
      halfEven numerator (denominator * 2 ^ (floor - 52).toNat)
      else halfEven (numerator * 2 ^ (-(floor - 52)).toNat) denominator) := by
    by_cases whole : 0 ≤ floor - 52
    · rw [if_pos whole]
      apply le_halfEven (Nat.mul_pos divides (Nat.two_pow_pos _))
      have atMost : denominator * 2 ^ ((floor - 52).toNat + 52) ≤ numerator * 2 ^ 0 :=
        mul_pow_le_of_le low (by omega)
      rwa [Nat.pow_add, ← Nat.mul_assoc, Nat.pow_zero, Nat.mul_one] at atMost
    · rw [if_neg whole]
      exact le_halfEven divides (mul_pow_le_of_le low (by omega))
  have steps : power + 1022 ≤ (floor - 52 + 1074).toNat := by omega
  have weight : (power + 1022) * leadingWeight ≤ (floor - 52 + 1074).toNat * leadingWeight :=
    Nat.mul_le_mul_right _ steps
  have single : 2 ^ 52 = leadingWeight := by decide
  have whole : (power + 1023) * leadingWeight =
      (power + 1022) * leadingWeight + leadingWeight := Nat.succ_mul _ _
  have limit : (power + 1023) * leadingWeight ≤ infinite :=
    Nat.mul_le_mul_right _ (by omega : power + 1023 ≤ 2047)
  refine Nat.le_min.mpr ⟨limit, ?_⟩
  rw [whole]
  exact Nat.add_le_add weight (single ▸ significant)

end Ratios

/-! ### Magnitudes as ratios -/

theorem significand_lt (magnitude : Nat) : significand magnitude < 2 ^ 53 := by
  have weight : leadingWeight = 2 ^ 52 := by decide
  have rest : magnitude % leadingWeight < leadingWeight := Nat.mod_lt _ (by decide)
  unfold significand
  split <;> omega

theorem le_significand {magnitude : Nat} (large : leadingWeight ≤ magnitude) :
    2 ^ 52 ≤ significand magnitude := by
  have weight : leadingWeight = 2 ^ 52 := by decide
  rw [significand, if_neg (Nat.not_lt.mpr large)]
  omega

theorem ratio_lt {magnitude power : Nat} (bound : magnitude ≤ (power + 1023) * leadingWeight) :
    (ratio magnitude).1 < (ratio magnitude).2 * 2 ^ (power + 1) := by
  have shift : scale magnitude ≤ power + 1022 := by
    have divided : magnitude / leadingWeight ≤ power + 1023 :=
      Nat.div_le_of_le_mul (by rwa [Nat.mul_comm])
    unfold scale
    omega
  have significant : significand magnitude * 2 ^ 0 < 1 * 2 ^ 53 := by
    simpa using significand_lt magnitude
  unfold ratio
  by_cases whole : 1074 ≤ scale magnitude
  · simp only [if_pos whole, Nat.pow_eq]
    exact mul_pow_lt_of_le significant (by omega)
  · simp only [if_neg whole, Nat.pow_eq]
    have less : significand magnitude * 2 ^ 0 < 1 * 2 ^ (1074 - scale magnitude + (power + 1)) :=
      mul_pow_lt_of_le significant (by omega)
    rwa [Nat.pow_zero, Nat.mul_one, Nat.one_mul, Nat.pow_add] at less

theorem le_ratio {magnitude power : Nat} (bound : (power + 1023) * leadingWeight ≤ magnitude) :
    (ratio magnitude).2 * 2 ^ power ≤ (ratio magnitude).1 := by
  have positive : 0 < leadingWeight := by decide
  have shift : power + 1022 ≤ scale magnitude := by
    have divided : power + 1023 ≤ magnitude / leadingWeight :=
      (Nat.le_div_iff_mul_le positive).mpr bound
    unfold scale
    omega
  have large : leadingWeight ≤ magnitude :=
    Nat.le_trans (Nat.le_mul_of_pos_left _ (Nat.succ_pos _)) bound
  have significant : 1 * 2 ^ 52 ≤ significand magnitude * 2 ^ 0 := by
    simpa using le_significand large
  unfold ratio
  by_cases whole : 1074 ≤ scale magnitude
  · simp only [if_pos whole, Nat.pow_eq]
    exact mul_pow_le_of_le significant (by omega)
  · simp only [if_neg whole, Nat.pow_eq]
    have atMost : 1 * 2 ^ (1074 - scale magnitude + power) ≤ significand magnitude * 2 ^ 0 :=
      mul_pow_le_of_le significant (by omega)
    rwa [Nat.pow_zero, Nat.mul_one, Nat.one_mul, Nat.pow_add] at atMost

theorem ratio_pos (magnitude : Nat) : 0 < (ratio magnitude).2 := by
  unfold ratio
  by_cases whole : 1074 ≤ scale magnitude
  · simp only [if_pos whole]
    exact Nat.one_pos
  · simp only [if_neg whole]
    exact Nat.two_pow_pos _

/-- Division by at least a power of two lowers a bound by that power. -/
theorem divMagnitude_le {left right power divisor : Nat}
    (atMost : left ≤ (power + 1023) * leadingWeight)
    (atLeast : (divisor + 1023) * leadingWeight ≤ right) (lowered : divisor ≤ power + 1) :
    divMagnitude left right ≤ (power + 1 - divisor + 1023) * leadingWeight := by
  have above := ratio_lt atMost
  have below := le_ratio atLeast
  have positive : 0 < (ratio right).1 :=
    Nat.lt_of_lt_of_le (Nat.mul_pos (ratio_pos right) (Nat.two_pow_pos divisor)) below
  refine magnitudeOfRatio_le (Nat.mul_pos (ratio_pos left) positive) ?_
  have quotient : (ratio left).1 * (ratio right).2 * 2 ^ divisor <
      (ratio left).2 * (ratio right).1 * 2 ^ (power + 1) := by
    calc (ratio left).1 * (ratio right).2 * 2 ^ divisor
        = (ratio left).1 * ((ratio right).2 * 2 ^ divisor) := Nat.mul_assoc _ _ _
      _ ≤ (ratio left).1 * (ratio right).1 := Nat.mul_le_mul_left _ below
      _ < (ratio left).2 * 2 ^ (power + 1) * (ratio right).1 :=
          Nat.mul_lt_mul_of_pos_right above positive
      _ = (ratio left).2 * (ratio right).1 * 2 ^ (power + 1) := Nat.mul_right_comm _ _ _
  have shifted : (ratio left).1 * (ratio right).2 * 2 ^ 0 <
      (ratio left).2 * (ratio right).1 * 2 ^ (power + 1 - divisor) :=
    mul_pow_lt_of_le quotient (by omega)
  rwa [Nat.pow_zero, Nat.mul_one] at shifted

/-! ### Numbers -/

theorem magnitude_ofMagnitude (negative : Bool) {magnitude : Nat} (small : magnitude < signWeight) :
    (ofMagnitude negative magnitude).magnitude = magnitude := by
  unfold ofMagnitude Binary64.magnitude
  rw [UInt64.toNat_ofNat']
  simp only [signWeight] at small ⊢
  split <;> omega

theorem isFinite_ofMagnitude (negative : Bool) {magnitude : Nat} (finite : magnitude < infinite) :
    (ofMagnitude negative magnitude).isFinite = true := by
  have small : magnitude < signWeight := Nat.lt_trans finite (by decide)
  rw [isFinite, magnitude_ofMagnitude negative small]
  exact decide_eq_true finite

end Binary64

/-! ### Numerals -/

namespace Json.Numeral

open Binary64

theorem takeWhole_lt (digits : List Digit) {significand : Nat} (fits : significand < UInt64.size) :
    (takeWhole significand digits).1 < UInt64.size := by
  induction digits generalizing significand with
  | nil => exact fits
  | cons digit rest ih =>
    unfold takeWhole
    simp only
    split
    · rename_i next
      exact ih next
    · exact fits

theorem takeFraction_lt (digits : List Digit) {significand : Nat}
    (fits : significand < UInt64.size) : (takeFraction significand digits).1 < UInt64.size := by
  induction digits generalizing significand with
  | nil => exact fits
  | cons digit rest ih =>
    unfold takeFraction
    simp only
    split
    · rename_i next
      exact ih next
    · exact fits

theorem significand_lt_size (numeral : Numeral) : numeral.significand.1 < UInt64.size :=
  takeFraction_lt numeral.fraction (takeWhole_lt numeral.whole (by decide))

/-- A power of ten is rounded to no less than a power of two that it exceeds. -/
theorem le_powerOfTen {power places : Nat} (small : power ≤ 1023) (near : places ≤ 400)
    (above : 2 ^ power ≤ 10 ^ places) : (power + 1023) * leadingWeight ≤ powerOfTen places := by
  have rounded : powerOfTen places = magnitudeOfRatio (1 * 10 ^ places) 1 := by
    simp only [powerOfTen, Decimal.magnitude, if_neg Nat.one_ne_zero]
    rw [if_neg (by omega), if_neg (by omega), if_pos (by omega)]
    rfl
  rw [rounded]
  exact le_magnitudeOfRatio Nat.one_pos small (by simpa using above)

theorem two_le_powerOfTen {places : Nat} (any : 1 ≤ places) (near : places ≤ 400) :
    (1 + 1023) * leadingWeight ≤ powerOfTen places := by
  apply le_powerOfTen (by decide) near
  calc 2 ^ 1
      ≤ 10 ^ 1 := by decide
    _ ≤ 10 ^ places := Nat.pow_le_pow_right (by decide) any

/-- Scaling down keeps a bound, but for one place at the end. -/
theorem scaleDown_le {power : Nat} (magnitude places : Nat)
    (bound : magnitude ≤ (power + 1023) * leadingWeight) :
    scaleDown magnitude places ≤ (power + 1 + 1023) * leadingWeight := by
  induction places using Nat.strongRecOn generalizing magnitude with
  | ind places ih =>
    unfold scaleDown
    split
    · rename_i many
      split
      · exact Nat.zero_le _
      · have step : (1 + 1023) * leadingWeight ≤ powerOfTen 308 :=
          two_le_powerOfTen (by decide) (by decide)
        have lowered := divMagnitude_le bound step (Nat.le_add_left 1 power)
        rw [Nat.add_sub_cancel] at lowered
        exact ih (places - 308) (by omega) _ lowered
    · rename_i few
      have last : (0 + 1023) * leadingWeight ≤ powerOfTen places :=
        le_powerOfTen (by decide) (by omega) (Nat.one_le_pow _ _ (by decide))
      have lowered := divMagnitude_le bound last (Nat.zero_le _)
      rwa [Nat.sub_zero] at lowered

/-- What a numeral is read as is finite. -/
theorem isFinite_of_toBinary64? {numeral : Numeral} {number : Binary64}
    (read : numeral.toBinary64? = some number) : number.isFinite = true := by
  have start : magnitudeOfRatio numeral.significand.1 1 ≤ (64 + 1023) * leadingWeight :=
    magnitudeOfRatio_le Nat.one_pos (by simpa using numeral.significand_lt_size)
  have whole : numeral.toBinary64? =
      (if 0 ≤ numeral.significand.2 + numeral.power.getD 0 then
        scaleUp? (magnitudeOfRatio numeral.significand.1 1)
          (numeral.significand.2 + numeral.power.getD 0).toNat
      else some (scaleDown (magnitudeOfRatio numeral.significand.1 1)
        (-(numeral.significand.2 + numeral.power.getD 0)).toNat)).map
          (ofMagnitude numeral.negative) := rfl
  rw [whole] at read
  obtain ⟨magnitude, scaled, rfl⟩ := Option.map_eq_some_iff.mp read
  apply isFinite_ofMagnitude
  by_cases up : 0 ≤ numeral.significand.2 + numeral.power.getD 0
  · rw [if_pos up] at scaled
    unfold scaleUp? at scaled
    split at scaled
    · split at scaled
      · cases scaled
        decide
      · cases scaled
    · simp only at scaled
      split at scaled
      · rename_i fits
        cases scaled
        exact fits
      · cases scaled
  · rw [if_neg up] at scaled
    cases scaled
    exact Nat.lt_of_le_of_lt (scaleDown_le _ _ start) (by decide)

end Json.Numeral

theorem Json.isFinite_of_binary64? {document : Json} {number : Binary64}
    (read : Json.binary64? document = some number) : number.isFinite = true := by
  cases document with
  | number numeral => exact Json.Numeral.isFinite_of_toBinary64? read
  | null => cases read
  | bool value => cases read
  | string text => cases read
  | array items => cases read
  | object members => cases read

end Telemetry
