import ThresholdCheck.Binary64.Basic

/-!
# Rounding to the nearest number

A quotient of natural numbers, read as a count of units, is rounded to the nearest count that the
format can hold, a tie going to the even significand; from the largest exponent on it becomes an
infinity.

## Main definitions

* `roundHalfEven` — a quotient rounded to a whole number
* `roundUnits` — a quotient rounded to 53 significant bits
* `Binary64.nearest` — the number nearest to a quotient
* `Binary64.ofNat`, `Magnitude.times?`, `Magnitude.over?` — rounded arithmetic

## Main results

* `roundHalfEven_le_succ`, `div_le_roundHalfEven` — rounding moves a quotient by less than one
* `representable_roundUnits` — a rounded count is representable unless it overflows
-/

namespace ThresholdCheck

/- Powers of natural numbers are the core library's, whatever else is loaded. -/
attribute [local instance (2000)] instPowNat

/-! ### To a whole number -/

/-- The whole number nearest to `num / den`; of two equally near ones, the even one. -/
def roundHalfEven (num den : Nat) : Nat :=
  let q := num / den
  let r := num % den
  if 2 * r < den then q else if den < 2 * r then q + 1 else q + q % 2

theorem roundHalfEven_le_succ (num den : Nat) : roundHalfEven num den ≤ num / den + 1 := by
  unfold roundHalfEven
  simp only
  split
  · omega
  · split <;> omega

theorem div_le_roundHalfEven (num den : Nat) : num / den ≤ roundHalfEven num den := by
  unfold roundHalfEven
  simp only
  split
  · omega
  · split <;> omega

/-- A whole number is not rounded. -/
theorem roundHalfEven_mul_left {n den : Nat} (h : 0 < den) : roundHalfEven (den * n) den = n := by
  simp [roundHalfEven, Nat.mul_div_cancel_left n h, h]

/-! ### To 53 significant bits -/

/-- How many low bits of the whole part of `num / den` go beyond 53 significant bits. -/
def excessBits (num den : Nat) : Nat := (num / den).log2 - 52

/-- The quotient `num / den` rounded to 53 significant bits. -/
def roundUnits (num den : Nat) : Nat :=
  roundHalfEven num (den * 2 ^ excessBits num den) * 2 ^ excessBits num den

theorem div_excessBits_lt (num den : Nat) :
    num / den / 2 ^ excessBits num den < 2 ^ (53 : Nat) := by
  rw [Nat.div_lt_iff_lt_mul (Nat.two_pow_pos _), ← Nat.pow_add]
  refine Nat.lt_of_lt_of_le Nat.lt_log2_self (Nat.pow_le_pow_right (by decide) ?_)
  rw [excessBits]
  omega

theorem roundHalfEven_excessBits_le (num den : Nat) :
    roundHalfEven num (den * 2 ^ excessBits num den) ≤ 2 ^ (53 : Nat) := by
  have h := roundHalfEven_le_succ num (den * 2 ^ excessBits num den)
  rw [← Nat.div_div_eq_div_mul] at h
  have := div_excessBits_lt num den
  omega

/-- A rounded count is representable as soon as it is not too large. -/
theorem representable_roundUnits {num den : Nat} (h : roundUnits num den < overflowUnits) :
    Representable (roundUnits num den) := by
  refine ⟨h, ?_⟩
  have hle := roundHalfEven_excessBits_le num den
  rw [roundUnits] at h ⊢
  generalize roundHalfEven num (den * 2 ^ excessBits num den) = m at *
  generalize excessBits num den = s at *
  rcases Nat.eq_zero_or_pos m with rfl | hm
  · simp
  · rcases Nat.lt_or_ge m (2 ^ (53 : Nat)) with hlt | hge
    · have hlog : (m * 2 ^ s).log2 < 53 + s := by
        rw [Nat.log2_lt (Nat.ne_of_gt (Nat.mul_pos hm (Nat.two_pow_pos s))), Nat.pow_add]
        exact (Nat.mul_lt_mul_right (Nat.two_pow_pos s)).2 hlt
      exact Nat.dvd_trans (Nat.pow_dvd_pow 2 (by omega)) (Nat.dvd_mul_left ..)
    · have hm : m = 2 ^ (53 : Nat) := Nat.le_antisymm hle hge
      rw [hm, ← Nat.pow_add, Nat.log2_two_pow]
      exact Nat.pow_dvd_pow 2 (by omega)

namespace Magnitude

/-- The magnitude nearest to `num / den` units, or `none` if that is too large. -/
def nearest? (num den : Nat) : Option Magnitude :=
  if h : roundUnits num den < overflowUnits then
    some ⟨roundUnits num den, representable_roundUnits h⟩
  else none

/-- The product of two magnitudes, rounded. -/
def times? (a b : Magnitude) : Option Magnitude := nearest? (a.units * b.units) unitsPerOne

/-- The quotient of two magnitudes, rounded. -/
def over? (a b : Magnitude) : Option Magnitude := nearest? (unitsPerOne * a.units) b.units

end Magnitude

namespace Binary64

/-- The number with a sign whose magnitude is nearest to `num / den` units. -/
def nearest (negative : Bool) (num den : Nat) : Binary64 :=
  match Magnitude.nearest? num den with
  | some m => finite negative m
  | none => infinite negative

/-- The number nearest to a natural number with a sign. -/
def ofNat (negative : Bool) (n : Nat) : Binary64 := nearest negative (unitsPerOne * n) 1

theorem nearest_ne_nan (negative : Bool) (num den : Nat) : nearest negative num den ≠ nan := by
  rw [nearest]
  split <;> simp

end Binary64

end ThresholdCheck
