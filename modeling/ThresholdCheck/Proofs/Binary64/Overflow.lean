import ThresholdCheck.Proofs.Binary64.Nearest

/-!
# Where numbers overflow

Between the largest finite number and `2 ^ 1024` lies no number of the format. A quotient there is
rounded to the nearer of the two, and a quotient half-way between them to `2 ^ 1024`, whose
significand is even. That is the infinity, so a quotient overflows exactly from the point half-way
on.

## Main definitions

* `overflowLimit` — the point half-way

## Main results

* `le_roundHalfEven_iff` — when a quotient is rounded to an even number or beyond
* `overflowUnits_le_roundUnits_iff` — when rounding overflows
* `Binary64.nearest_eq_infinite_iff` — when the nearest number is an infinity
-/

namespace ThresholdCheck

/- Powers of natural numbers are the core library's, whatever else is loaded. -/
attribute [local instance (2000)] instPowNat

/-- An even number is reached from half a step below it. -/
theorem le_roundHalfEven_iff {num den k : Nat} (hden : 0 < den) (hpos : 0 < k) (heven : k % 2 = 0) :
    k ≤ roundHalfEven num den ↔ (2 * k - 1) * den ≤ 2 * num := by
  have hnum := Nat.div_add_mod' num den
  have hmod := Nat.mod_lt num hden
  have hodd : (2 * k - 1) * den = 2 * (k - 1) * den + den := by
    rw [← Nat.succ_mul]
    congr 1
    omega
  rw [hodd]
  rcases Nat.lt_trichotomy (num / den + 1) k with hk | hk | hk
  · -- the quotient is more than a step below
    have hle := roundHalfEven_le_succ num den
    have hstep := Nat.mul_le_mul_right den (show num / den + 1 ≤ k - 1 by omega)
    rw [Nat.add_mul, Nat.one_mul] at hstep
    rw [Nat.mul_assoc]
    constructor
    · omega
    · omega
  · subst hk
    rw [Nat.add_sub_cancel, Nat.mul_assoc]
    rcases roundHalfEven_cases num den with ⟨hround, hhalf, htie⟩ | ⟨hround, hhalf, htie⟩
    · rw [hround]
      constructor
      · omega
      · intro hle
        have := htie (by omega)
        omega
    · rw [hround]
      omega
  · have hle := div_le_roundHalfEven num den
    have hstep := Nat.mul_le_mul_right den (show k ≤ num / den by omega)
    have hfront := Nat.mul_le_mul_right den (show k - 1 + 1 ≤ num / den by omega)
    rw [Nat.add_mul, Nat.one_mul] at hfront
    rw [Nat.mul_assoc]
    constructor
    · omega
    · omega

/-- Rounding to 53 bits reaches a power of two from half a step below it, the step being that of
the numbers below. -/
theorem two_pow_le_roundUnits_iff (num p : Nat) {den : Nat} (hden : 0 < den) :
    2 ^ (54 + p) ≤ roundUnits num den ↔ (2 ^ 54 - 1) * 2 ^ p * den ≤ num := by
  have hquotient : num / den < 2 ^ ((num / den).log2 + 1) := Nat.lt_log2_self
  have hnum : num / den * den ≤ num ∧ num < (num / den + 1) * den := by
    rw [Nat.add_mul, Nat.one_mul]
    exact ⟨Nat.div_mul_le_self num den, Nat.lt_div_mul_add hden⟩
  have hlimit : (2 ^ 54 - 1) * 2 ^ p * den < 2 ^ (54 + p) * den := by
    rw [Nat.pow_add]
    exact Nat.mul_lt_mul_of_pos_right
      (Nat.mul_lt_mul_of_pos_right (by decide) (Nat.two_pow_pos p)) hden
  have hbinade : 2 ^ (53 + p) * den ≤ (2 ^ 54 - 1) * 2 ^ p * den := by
    rw [Nat.pow_add]
    exact Nat.mul_le_mul_right den (Nat.mul_le_mul_right _ (by decide))
  rcases Nat.lt_trichotomy (num / den).log2 (53 + p) with hlog | hlog | hlog
  · -- the leading bit is too low, whichever way is rounded
    have hrounded : roundUnits num den ≤ 2 ^ 53 * 2 ^ p := by
      refine Nat.mul_le_mul (roundHalfEven_excessBits_le num den)
        (Nat.pow_le_pow_right (by decide) ?_)
      rw [excessBits]
      omega
    have hlow : (num / den + 1) * den ≤ 2 ^ (53 + p) * den := Nat.mul_le_mul_right den
      (Nat.le_trans hquotient (Nat.pow_le_pow_right (by decide) (by omega)))
    have hpos := Nat.two_pow_pos p
    rw [Nat.pow_add]
    constructor
    · omega
    · omega
  · have hbits : excessBits num den = p + 1 := by
      rw [excessBits, hlog]
      omega
    have hexponent : 54 + p = 53 + (p + 1) := by omega
    have hodd : 2 * 2 ^ 53 - 1 = 2 ^ 54 - 1 := by decide
    have hdouble : 2 ^ (p + 1) = 2 ^ p * 2 := Nat.pow_succ 2 p
    have hstep : (2 * 2 ^ 53 - 1) * (den * 2 ^ (p + 1)) = 2 * ((2 ^ 54 - 1) * 2 ^ p * den) := by
      rw [hodd, hdouble]
      generalize 2 ^ 54 - 1 = limit
      ac_rfl
    rw [roundUnits, hbits, hexponent, Nat.pow_add, Nat.mul_le_mul_right_iff (Nat.two_pow_pos _),
      le_roundHalfEven_iff (Nat.mul_pos hden (Nat.two_pow_pos _)) (by decide) (by decide), hstep,
      Nat.mul_le_mul_left_iff (by decide)]
  · -- the leading bit alone is as high as the power
    have hlead : 2 ^ (num / den).log2 ≤ num / den := Nat.log2_self_le fun hzero => by
      rw [hzero, Nat.log2_zero] at hlog
      omega
    have hpower : 2 ^ (54 + p) ≤ 2 ^ (num / den).log2 :=
      Nat.pow_le_pow_right (by decide) (by omega)
    have hhigh := Nat.le_trans hpower hlead
    have hrounded : 2 ^ (num / den).log2 ≤ roundUnits num den := by
      have hbits : 2 ^ (num / den).log2 = 2 ^ 52 * 2 ^ excessBits num den := by
        rw [← Nat.pow_add, excessBits]
        congr 1
        omega
      have hdiv : 2 ^ 52 ≤ num / den / 2 ^ excessBits num den := by
        rwa [Nat.le_div_iff_mul_le (Nat.two_pow_pos _), ← hbits]
      rw [Nat.div_div_eq_div_mul] at hdiv
      rw [hbits, roundUnits]
      exact Nat.mul_le_mul_right _ (Nat.le_trans hdiv (div_le_roundHalfEven _ _))
    have hreached := Nat.mul_le_mul_right den hhigh
    constructor
    · omega
    · exact fun _ => Nat.le_trans hpower hrounded

/-! ### The largest numbers -/

/-- The number half-way between the largest finite number and `2 ^ 1024`. -/
@[irreducible] def overflowLimit : Nat := 2 ^ 1024 - 2 ^ 970

theorem one_le_overflowLimit : 1 ≤ overflowLimit := by
  unfold overflowLimit
  decide +kernel

theorem ten_pow_lt_overflowLimit {n : Nat} (h : n ≤ 308) : 10 ^ n < overflowLimit := by
  obtain ⟨k, hk, hlimit⟩ : ∃ k, 308 ≤ k ∧ 10 ^ k < overflowLimit := by
    refine ⟨308, Nat.le_refl _, ?_⟩
    unfold overflowLimit
    decide +kernel
  exact Nat.lt_of_le_of_lt (Nat.pow_le_pow_right (by decide) (Nat.le_trans h hk)) hlimit

theorem overflowLimit_le_ten_pow {n : Nat} (h : 309 ≤ n) : overflowLimit ≤ 10 ^ n := by
  obtain ⟨k, hk, hlimit⟩ : ∃ k, k ≤ 309 ∧ overflowLimit ≤ 10 ^ k := by
    refine ⟨309, Nat.le_refl _, ?_⟩
    unfold overflowLimit
    decide +kernel
  exact Nat.le_trans hlimit (Nat.pow_le_pow_right (by decide) (Nat.le_trans hk h))

/-- Counted in units. -/
theorem unitsPerOne_mul_overflowLimit :
    unitsPerOne * overflowLimit = (2 ^ 54 - 1) * 2 ^ (unitExponent + 970) := by
  unfold overflowLimit
  have hlimit : 2 ^ 1024 - 2 ^ 970 = (2 ^ 54 - 1) * 2 ^ 970 := by
    rw [Nat.sub_mul, Nat.one_mul, ← Nat.pow_add]
  rw [hlimit, unitsPerOne_eq, Nat.mul_left_comm, ← Nat.pow_add]

/-- Rounding overflows from the limit on. -/
theorem overflowUnits_le_roundUnits_iff (num : Nat) {den : Nat} (hden : 0 < den) :
    overflowUnits ≤ roundUnits num den ↔ unitsPerOne * overflowLimit * den ≤ num := by
  have hexponent : unitExponent + 1024 = 54 + (unitExponent + 970) := rfl
  rw [overflowUnits_eq, hexponent, unitsPerOne_mul_overflowLimit]
  exact two_pow_le_roundUnits_iff num _ hden

namespace Binary64

/-- The number nearest to a quotient is an infinity from the limit on. -/
theorem nearest_eq_infinite_iff (negative : Bool) (num : Nat) {den : Nat} (hden : 0 < den) :
    nearest negative num den = infinite negative ↔ unitsPerOne * overflowLimit * den ≤ num := by
  rw [← overflowUnits_le_roundUnits_iff num hden, nearest, Magnitude.nearest?]
  by_cases hlt : roundUnits num den < overflowUnits
  · simp [hlt]
  · simp [hlt, Nat.not_lt.1 hlt]

end Binary64

end ThresholdCheck
