import Mathlib.Tactic.NormNum
import Mathlib.Tactic.Positivity
import Mathlib.Data.Rat.Cast.Order
import Mathlib.Algebra.Order.Field.Power
import ThresholdCheck.Decimal.Numeral
import ThresholdCheck.Proofs.Binary64.Overflow
import ThresholdCheck.Proofs.Decimal.Digits

/-!
# Decimals that overflow

A decimal is too large for the format if its exact value is at least `2 ^ 1024 - 2 ^ 970`. Reading
is exact before it rounds, so that a text says whether it overflows, whatever its digits and its
exponent.

## Main definitions

* `Text.Overflows` — the texts of decimals that are too large

## Main results

* `Binary64.nearestDecimal_eq_infinite_iff` — which decimals are rounded to an infinity
* `Binary64.read?_eq_infinite_iff` — which texts are read as an infinity
-/

namespace ThresholdCheck

/- Powers of natural numbers are the core library's, whatever else is loaded. -/
attribute [local instance (2000)] instPowNat

namespace Decimal

/-- The leading digit of a decimal and the place it has tell its size. -/
theorem size_of_places {coefficient : Nat} (h : coefficient ≠ 0) (scale : Int) :
    let places : Int := (Nat.toDigits 10 coefficient).length + scale
    (10 : ℚ) ^ (places - 1) ≤ coefficient * 10 ^ scale ∧
      (coefficient * 10 ^ scale : ℚ) < 10 ^ places := by
  intro places
  have hlength : 0 < (Nat.toDigits 10 coefficient).length := Nat.length_toDigits_pos
  have hbelow : coefficient < 10 ^ (Nat.toDigits 10 coefficient).length :=
    lt_ten_pow_length coefficient
  have habove : 10 ^ ((Nat.toDigits 10 coefficient).length - 1) ≤ coefficient :=
    ten_pow_le_of_ne_zero h
  have hscale : (0 : ℚ) < 10 ^ scale := zpow_pos (by norm_num) scale
  constructor
  · have hsplit : places - 1 = ((Nat.toDigits 10 coefficient).length - 1 : Nat) + scale := by
      simp only [places]
      omega
    rw [hsplit, zpow_add₀ (by norm_num), zpow_natCast]
    exact mul_le_mul_of_nonneg_right (by exact_mod_cast habove) hscale.le
  · rw [zpow_add₀ (by norm_num), zpow_natCast]
    exact mul_lt_mul_of_pos_right (by exact_mod_cast hbelow) hscale

end Decimal

namespace Binary64

/-- A decimal is rounded to an infinity exactly from the limit on. -/
theorem nearestDecimal_eq_infinite_iff {negative : Bool} {coefficient : Nat} {scale : Int} :
    nearestDecimal negative coefficient scale = infinite negative ↔
      (overflowLimit : ℚ) ≤ coefficient * 10 ^ scale := by
  have hone : (1 : ℚ) ≤ overflowLimit := by exact_mod_cast one_le_overflowLimit
  rw [nearestDecimal]
  by_cases hzero : coefficient = 0
  · subst hzero
    simp only [zero, if_true, reduceCtorEq, Nat.cast_zero, zero_mul, false_iff, not_le]
    exact lt_of_lt_of_le one_pos hone
  · simp only [hzero, if_false]
    obtain ⟨habove, hbelow⟩ := Decimal.size_of_places hzero scale
    split
    · rename_i hlarge
      have hhigh : (10 : ℚ) ^ (310 : ℤ) ≤ coefficient * 10 ^ scale :=
        (zpow_le_zpow_right₀ (by norm_num) (by omega)).trans habove
      rw [zpow_ofNat] at hhigh
      exact iff_of_true rfl
        (le_trans (by exact_mod_cast overflowLimit_le_ten_pow (by decide)) hhigh)
    · split
      · rename_i hsmall
        have hlow : (coefficient * 10 ^ scale : ℚ) < 10 ^ (0 : ℤ) :=
          hbelow.trans_le (zpow_le_zpow_right₀ (by norm_num) (by omega))
        rw [zpow_zero] at hlow
        exact iff_of_false (by simp [zero]) (not_le.2 (hlow.trans_le hone))
      · split
        · rename_i hscale
          obtain ⟨n, rfl⟩ := Int.eq_ofNat_of_zero_le hscale
          rw [nearest_eq_infinite_iff negative _ Nat.one_pos, Nat.mul_one,
            Nat.mul_le_mul_left_iff unitsPerOne_pos, Int.toNat_natCast, zpow_natCast]
          exact_mod_cast Iff.rfl
        · rename_i hscale
          obtain ⟨n, hn⟩ := Int.eq_ofNat_of_zero_le (show 0 ≤ -scale by omega)
          obtain rfl : scale = -(n : Int) := by omega
          rw [nearest_eq_infinite_iff negative _ (Nat.pow_pos (by decide)), Nat.mul_assoc,
            Nat.mul_le_mul_left_iff unitsPerOne_pos, Int.neg_neg, Int.toNat_natCast, zpow_neg,
            zpow_natCast, ← div_eq_mul_inv, le_div_iff₀ (by positivity)]
          exact_mod_cast Iff.rfl

theorem sign_of_nearest_eq_infinite {negative other : Bool} {num den : Nat}
    (h : nearest negative num den = infinite other) : negative = other := by
  rw [nearest] at h
  split at h
  · cases h
  · exact infinite.inj h

/-- Rounding keeps the sign. -/
theorem sign_of_nearestDecimal_eq_infinite {negative other : Bool} {coefficient : Nat}
    {scale : Int} (h : nearestDecimal negative coefficient scale = infinite other) :
    negative = other := by
  rw [nearestDecimal] at h
  simp only at h
  split at h
  · cases h
  · split at h
    · exact infinite.inj h
    · split at h
      · cases h
      · split at h
        · exact sign_of_nearest_eq_infinite h
        · exact sign_of_nearest_eq_infinite h

end Binary64

/-- The text of a decimal with a sign that is too large for the format. -/
def Text.Overflows (negative : Bool) (t : Text) : Prop :=
  ∃ coefficient scale, Numeral.read? t = some (.decimal negative coefficient scale) ∧
    (overflowLimit : ℚ) ≤ coefficient * 10 ^ scale

/-- A text is read as an infinity if it spells one or overflows. -/
theorem Binary64.read?_eq_infinite_iff {negative : Bool} {t : Text} :
    Binary64.read? t = some (.infinite negative) ↔
      Numeral.read? t = some (.infinity negative) ∨ t.Overflows negative := by
  rw [Binary64.read?, Option.map_eq_some_iff]
  constructor
  · rintro ⟨numeral, hread, hvalue⟩
    cases numeral with
    | nan => cases hvalue
    | infinity other =>
      cases hvalue
      exact .inl hread
    | decimal other coefficient scale =>
      obtain rfl := sign_of_nearestDecimal_eq_infinite hvalue
      exact .inr ⟨coefficient, scale, hread, nearestDecimal_eq_infinite_iff.1 hvalue⟩
  · rintro (hread | ⟨coefficient, scale, hread, hlimit⟩)
    · exact ⟨_, hread, rfl⟩
    · exact ⟨_, hread, nearestDecimal_eq_infinite_iff.2 hlimit⟩

end ThresholdCheck
