import Mathlib.Algebra.Order.Field.Power
import Mathlib.Tactic.NormNum
import Mathlib.Tactic.Positivity
import ThresholdCheck.Proofs.Binary64.Rationals
import ThresholdCheck.Proofs.Decimal.Overflow

/-!
# Decimals are rounded to the nearest number

A decimal is a quotient of natural numbers, and rounding it is rounding this quotient. Decimals that
are far too large or far too small are told by the place of their leading digit, without the
quotient; this gives the same number, since the former overflow and the latter are below half of the
least number. So a decimal below the point of overflow is rounded to the number that is nearest to
its exact value.

## Main results

* `Binary64.nearestDecimal_eq_nearest` — telling by the leading digit changes nothing
* `Binary64.nearestDecimal_eq_finite_iff` — which number a decimal is rounded to
-/

namespace ThresholdCheck

/- Powers of natural numbers are the core library's, whatever else is loaded. -/
attribute [local instance (2000)] instPowNat

/-- The exact value of a decimal, as a quotient of counts of units. -/
theorem Decimal.eq_quotient (coefficient : Nat) (scale : Int) :
    (coefficient * 10 ^ scale : ℚ) =
      (unitsPerOne * (coefficient * 10 ^ scale.toNat) : Nat) /
        (unitsPerOne * 10 ^ (-scale).toNat : Nat) := by
  have hunits : (unitsPerOne : ℚ) ≠ 0 := Magnitude.unitsPerOne_cast_pos.ne'
  rw [Nat.cast_mul, Nat.cast_mul unitsPerOne, mul_div_mul_left _ _ hunits]
  rcases Int.le_total 0 scale with h | h
  · obtain ⟨n, rfl⟩ := Int.eq_ofNat_of_zero_le h
    have hnone : (-(n : Int)).toNat = 0 := by omega
    rw [hnone, Int.toNat_natCast, zpow_natCast]
    simp
  · obtain ⟨n, hn⟩ := Int.eq_ofNat_of_zero_le (Int.neg_nonneg_of_nonpos h)
    obtain rfl : scale = -(n : Int) := by omega
    have hnone : (-(n : Int)).toNat = 0 := by omega
    rw [hnone, Int.neg_neg, Int.toNat_natCast, zpow_neg, zpow_natCast, ← div_eq_mul_inv]
    simp

namespace Binary64

variable {negative : Bool} {coefficient : Nat} {scale : Int} {m : Magnitude}

/-- What is below half of a unit is rounded to zero. -/
theorem nearest_eq_zero {num den : Nat} (h : 2 * num < den) :
    nearest negative num den = zero negative := by
  have hdiv : num / den = 0 := Nat.div_eq_of_lt (by omega)
  have hmod : num % den = num := Nat.mod_eq_of_lt (by omega)
  have hbits : excessBits num den = 0 := by rw [excessBits, hdiv, Nat.log2_zero]
  have hunits : roundUnits num den = Magnitude.zero.units := by
    rw [roundUnits, hbits, Nat.pow_zero, Nat.mul_one, Nat.mul_one, roundHalfEven]
    simp only [hdiv, hmod, if_pos h]
    rfl
  rw [nearest, Magnitude.nearest?_eq_some_iff.2 hunits]
  rfl

/-- Half of a unit is not below `10 ^ (-324)`. -/
theorem two_mul_unitsPerOne_le : 2 * unitsPerOne ≤ 10 ^ 324 := by
  rw [unitsPerOne_eq]
  decide +kernel

/-- Rounding a decimal is rounding a quotient, whatever the place of its leading digit. -/
theorem nearestDecimal_eq_nearest (negative : Bool) (coefficient : Nat) (scale : Int) :
    nearestDecimal negative coefficient scale =
      nearest negative (unitsPerOne * (coefficient * 10 ^ scale.toNat)) (10 ^ (-scale).toNat) := by
  have hden : 0 < 10 ^ (-scale).toNat := Nat.pow_pos (by decide)
  have hpos : (0 : ℚ) < (unitsPerOne * 10 ^ (-scale).toNat : Nat) := by
    exact_mod_cast Nat.mul_pos unitsPerOne_pos hden
  have hvalue := Decimal.eq_quotient coefficient scale
  rw [nearestDecimal]
  by_cases hzero : coefficient = 0
  · rw [if_pos hzero, nearest_eq_zero]
    rwa [hzero, Nat.zero_mul, Nat.mul_zero, Nat.mul_zero]
  · rw [if_neg hzero]
    obtain ⟨habove, hbelow⟩ := Decimal.size_of_places hzero scale
    simp only
    split
    · rename_i hlarge
      have hinfinite : nearestDecimal negative coefficient scale = infinite negative := by
        rw [nearestDecimal, if_neg hzero]
        exact if_pos hlarge
      have hlimit := nearestDecimal_eq_infinite_iff.1 hinfinite
      rw [hvalue, le_div_iff₀ hpos] at hlimit
      refine ((nearest_eq_infinite_iff negative _ hden).2 ?_).symm
      rw [Nat.mul_right_comm, Nat.mul_comm]
      exact_mod_cast hlimit
    · split
      · rename_i hsmall
        have hlow : (coefficient * 10 ^ scale : ℚ) < 10 ^ (-(324 : ℕ) : ℤ) :=
          hbelow.trans_le (zpow_le_zpow_right₀ (by norm_num) (by omega))
        rw [hvalue, zpow_neg, zpow_natCast, div_lt_iff₀ hpos, ← div_eq_inv_mul,
          lt_div_iff₀ (by positivity)] at hlow
        have hfew : unitsPerOne * (coefficient * 10 ^ scale.toNat) * 10 ^ 324 <
            unitsPerOne * 10 ^ (-scale).toNat := by
          exact_mod_cast hlow
        refine (nearest_eq_zero (Nat.lt_of_mul_lt_mul_left (a := unitsPerOne) ?_)).symm
        refine Nat.lt_of_le_of_lt ?_ hfew
        rw [← Nat.mul_assoc, Nat.mul_comm unitsPerOne 2, Nat.mul_comm]
        exact Nat.mul_le_mul_left _ two_mul_unitsPerOne_le
      · split
        · rename_i hscale
          have hone : (-scale).toNat = 0 := by omega
          rw [hone, Nat.pow_zero]
        · rename_i hscale
          have hone : scale.toNat = 0 := by omega
          rw [hone, Nat.pow_zero, Nat.mul_one]

theorem nearestDecimal_eq_infinite_or (negative : Bool) (coefficient : Nat) (scale : Int) :
    nearestDecimal negative coefficient scale = infinite negative ∨
      ∃ m, nearestDecimal negative coefficient scale = finite negative m := by
  rw [nearestDecimal_eq_nearest, nearest]
  split
  · exact .inr ⟨_, rfl⟩
  · exact .inl rfl

/-- **A decimal is rounded to the nearest number**, unless it is too large for the format. -/
theorem nearestDecimal_eq_finite_iff :
    nearestDecimal negative coefficient scale = finite negative m ↔
      (coefficient * 10 ^ scale : ℚ) < overflowLimit ∧ m.IsNearest (coefficient * 10 ^ scale) := by
  have hden : 0 < 10 ^ (-scale).toNat := Nat.pow_pos (by decide)
  have hlimit : nearestDecimal negative coefficient scale = infinite negative ↔ _ :=
    nearestDecimal_eq_infinite_iff
  rw [nearestDecimal_eq_nearest, nearest] at *
  cases hrounded : Magnitude.nearest? (unitsPerOne * (coefficient * 10 ^ scale.toNat))
      (10 ^ (-scale).toNat) with
  | none =>
    simp only [hrounded, true_iff] at hlimit
    simp [not_lt.2 hlimit]
  | some nearest =>
    simp only [hrounded, reduceCtorEq, false_iff, not_le] at hlimit
    have hnearest := Magnitude.isNearest_of_nearest? hden hrounded
    rw [← Decimal.eq_quotient] at hnearest
    constructor
    · rintro ⟨⟩
      exact ⟨hlimit, hnearest⟩
    · rintro ⟨-, hm⟩
      rw [hnearest.unique hm]

end Binary64

end ThresholdCheck
