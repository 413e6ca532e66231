import Telemetry.Json.Numeral
/-!
The numerals that this library writes. All of them begin as JSON wants it (`Numeral.Leads`), which
a reader depends on, and the numeral of a 64-bit integer stands for that integer.
-/

namespace Telemetry

namespace Decimal

theorem coefficient_stripZeros (decimal : Decimal) (counts : decimal.coefficient ≠ 0) :
    decimal.stripZeros.coefficient ≠ 0 := by
  induction decimal using stripZeros.induct with
  | case1 decimal zero => exact absurd zero counts
  | case2 decimal positive round ih =>
    rw [stripZeros, dif_neg positive, if_pos round]
    refine ih ?_
    change decimal.coefficient / 10 ≠ 0
    omega
  | case3 decimal positive done =>
    rw [stripZeros, dif_neg positive, if_neg done]
    exact counts

theorem coefficient_of_magnitude {decimal : Decimal} (counts : decimal.magnitude ≠ 0) :
    decimal.coefficient ≠ 0 := by
  intro zero
  exact counts (if_pos zero)

theorem magnitude_onGrid? {tie : Tie} {numerator denominator target : Nat} {exponent : Int}
    {decimal : Decimal}
    (found : onGrid? tie numerator denominator target exponent = some decimal) :
    decimal.magnitude = target := by
  have either : ∀ near far : Decimal,
      (if near.magnitude = target then some near
        else if far.magnitude = target then some far else none) = some decimal →
      decimal.magnitude = target := by
    intro near far chosen
    split at chosen
    · rename_i fits
      cases chosen
      exact fits
    · split at chosen
      · rename_i fits
        cases chosen
        exact fits
      · cases chosen
  exact either _ _ found

theorem magnitude_search {tie : Tie} {numerator denominator target : Nat} {leading : Int}
    {decimal : Decimal} (tries length : Nat)
    (found : search tie numerator denominator target leading tries length = some decimal) :
    decimal.magnitude = target := by
  induction tries generalizing length with
  | zero => cases found
  | succ tries ih =>
    rw [search] at found
    split at found
    · rename_i reached
      cases found
      exact magnitude_onGrid? reached
    · exact ih _ found

theorem coefficient_exact {magnitude : Nat} (positive : magnitude ≠ 0) :
    (exact magnitude).coefficient ≠ 0 := by
  have significant : Binary64.significand magnitude ≠ 0 := by
    unfold Binary64.significand Binary64.leadingWeight
    split <;> omega
  simp only [exact]
  split
  · exact Nat.mul_ne_zero significant (Nat.ne_of_gt (Nat.pow_pos (by decide)))
  · exact Nat.mul_ne_zero significant (Nat.ne_of_gt (Nat.pow_pos (by decide)))

/-- The shortest decimal is nought without any power, or has a digit that counts. -/
theorem shortest_cases (tie : Tie) (magnitude : Nat) :
    shortest tie magnitude = ⟨0, 0⟩ ∨ (shortest tie magnitude).coefficient ≠ 0 := by
  by_cases zero : magnitude = 0
  · exact .inl (if_pos zero)
  · right
    simp only [shortest, if_neg zero]
    split
    · rename_i decimal found
      refine coefficient_stripZeros decimal (coefficient_of_magnitude ?_)
      rw [magnitude_search _ _ found]
      exact zero
    · exact coefficient_stripZeros _ (coefficient_exact zero)

end Decimal

namespace Json.Numeral

/-- What may stand in front of a point: a single nought, or digits that do not begin with one. -/
def Leads (digits : List Digit) : Prop :=
  ∃ first rest, digits = first :: rest ∧ (first.val = 0 → rest = [])

theorem digitsValue_append (digits : List Digit) (last : Digit) :
    digitsValue (digits ++ [last]) = digitsValue digits * 10 + last.val := by
  simp [digitsValue]

theorem digitsValue_digitsOf (value : Nat) : digitsValue (digitsOf value) = value := by
  induction value using digitsOf.induct with
  | case1 value small =>
    rw [digitsOf, dif_pos small]
    simp [digitsValue]
  | case2 value large ih =>
    rw [digitsOf, dif_neg large, digitsValue_append, ih]
    exact Nat.div_add_mod' value 10

theorem digitsOf_eq_cons (value : Nat) (positive : value ≠ 0) :
    ∃ first rest, digitsOf value = first :: rest ∧ first.val ≠ 0 := by
  induction value using digitsOf.induct with
  | case1 value small =>
    rw [digitsOf, dif_pos small]
    exact ⟨⟨value, small⟩, [], rfl, positive⟩
  | case2 value large ih =>
    obtain ⟨first, rest, digits, counts⟩ := ih (by omega)
    rw [digitsOf, dif_neg large, digits]
    exact ⟨first, rest ++ [_], rfl, counts⟩

theorem leads_digitsOf (value : Nat) : Leads (digitsOf value) := by
  by_cases zero : value = 0
  · subst zero
    exact ⟨0, [], by rw [digitsOf, dif_pos (by decide)]; rfl, fun _zero => rfl⟩
  · obtain ⟨first, rest, digits, counts⟩ := digitsOf_eq_cons value zero
    exact ⟨first, rest, digits, fun nought => absurd nought counts⟩

theorem leads_ofInt (value : Int) : Leads (ofInt value).whole := leads_digitsOf value.natAbs

theorem leads_ofDecimal (negative : Bool) (decimal : Decimal)
    (counts : decimal = ⟨0, 0⟩ ∨ decimal.coefficient ≠ 0) :
    Leads (ofDecimal negative decimal).whole := by
  rcases counts with rfl | positive
  · refine ⟨0, [], ?_, fun _zero => rfl⟩
    have digits : digitsOf 0 = [0] := by
      rw [digitsOf, dif_pos (by decide)]
      rfl
    simp [ofDecimal, digits]
  · obtain ⟨first, rest, digits, nonzero⟩ := digitsOf_eq_cons _ positive
    have leads : ∀ others, Leads (first :: others) := fun others =>
      ⟨first, others, rfl, fun nought => absurd nought nonzero⟩
    simp only [ofDecimal, digits]
    split
    · split
      · exact leads _
      · split
        · rename_i inside
          obtain ⟨kept, more⟩ := Nat.exists_eq_succ_of_ne_zero (Nat.sub_ne_zero_of_lt inside)
          simp only [more, List.take_succ_cons]
          exact leads _
        · exact ⟨0, [], rfl, fun _zero => rfl⟩
    · exact leads []

theorem leads_ofBinary64 (number : Binary64) : Leads (ofBinary64 number).whole :=
  leads_ofDecimal _ _ (Decimal.shortest_cases _ _)

theorem toInt64?_ofInt (value : Int64) : (ofInt value.toInt).toInt64? = some value := by
  have below := Int64.toInt_lt value
  have above := Int64.le_toInt value
  simp only [toInt64?, isIntegral, ofInt, digitsValue_digitsOf, List.isEmpty_nil,
    Option.isNone_none, Bool.and_self, if_true, Integer.int64Bound]
  by_cases negative : value.toInt < 0
  · have size : (-(value.toInt.natAbs : Int)) = value.toInt := by omega
    rw [decide_eq_true negative, if_pos rfl, if_pos (by omega), size, Int64.ofInt_toInt]
  · have size : (value.toInt.natAbs : Int) = value.toInt := by omega
    rw [decide_eq_false negative, if_neg (by decide), if_pos (by omega), size, Int64.ofInt_toInt]

end Json.Numeral

end Telemetry
