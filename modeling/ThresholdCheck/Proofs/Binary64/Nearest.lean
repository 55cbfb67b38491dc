import Mathlib.Data.Nat.Dist
import ThresholdCheck.Binary64.Rounding

/-!
# Rounding finds the nearest number

Rounding to a whole number, and rounding to a number of the format, are each determined by a
distance: no other candidate is nearer, and of two equally near whole numbers the even one is
taken. Everything later modules need of rounding follows from these statements; none of them opens
the definitions again.

Distances are `Nat.dist` and quotients are never formed: how far `k` is from `num / den` is
measured by `Nat.dist (k * den) num`.

## Main results

* `roundHalfEven_eq_of_dist` — a whole number within half a step, even if it is just half a step
  away, is what is rounded to
* `dist_roundHalfEven_le_half`, `even_of_dist_roundHalfEven_eq_half` — and the converse
* `dist_roundHalfEven_le`, `dist_roundUnits_le` — nothing is nearer than what is rounded to
* `Representable.add_unitsPerOne_le` — finite numbers keep a distance from overflow
-/

namespace ThresholdCheck

/- Powers of natural numbers are the core library's, whatever else is loaded. -/
attribute [local instance (2000)] instPowNat

/-! ### Whole numbers -/

section RoundHalfEven

variable {num den k : Nat}

/-- What is rounded to, by its remainder: the quotient, or the number after it. -/
theorem roundHalfEven_cases (num den : Nat) :
    roundHalfEven num den = num / den ∧ 2 * (num % den) ≤ den ∧
        (2 * (num % den) = den → num / den % 2 = 0) ∨
      roundHalfEven num den = num / den + 1 ∧ den ≤ 2 * (num % den) ∧
        (2 * (num % den) = den → (num / den + 1) % 2 = 0) := by
  unfold roundHalfEven
  simp only
  split
  · omega
  · split
    · omega
    · have := Nat.mod_two_eq_zero_or_one (num / den)
      omega

/-- How far whole numbers are from a quotient, by its remainder. -/
theorem dist_mul_eq (hden : 0 < den) (num k : Nat) :
    (k ≤ num / den → Nat.dist (k * den) num = (num / den - k) * den + num % den) ∧
      (num / den < k →
        Nat.dist (k * den) num = (k - (num / den + 1)) * den + (den - num % den)) := by
  have hnum := Nat.div_add_mod' num den
  have hmod := Nat.mod_lt num hden
  constructor
  · intro hk
    have hsplit : num / den * den = (num / den - k) * den + k * den := by
      rw [← Nat.add_mul, Nat.sub_add_cancel hk]
    rw [Nat.dist_eq_sub_of_le (by omega)]
    omega
  · intro hk
    have hsplit : k * den = (k - (num / den + 1)) * den + (num / den * den + den) := by
      rw [← Nat.succ_mul, ← Nat.add_mul, Nat.sub_add_cancel hk]
    rw [Nat.dist_eq_sub_of_le_right (by omega)]
    omega

theorem dist_roundHalfEven (hden : 0 < den) (num : Nat) :
    Nat.dist (roundHalfEven num den * den) num = min (num % den) (den - num % den) := by
  have hmod := Nat.mod_lt num hden
  rcases roundHalfEven_cases num den with ⟨hround, hle, -⟩ | ⟨hround, hle, -⟩
  · rw [hround, (dist_mul_eq hden num _).1 (Nat.le_refl _)]
    simp only [Nat.sub_self, Nat.zero_mul]
    omega
  · rw [hround, (dist_mul_eq hden num _).2 (Nat.lt_succ_self _)]
    simp only [Nat.sub_self, Nat.zero_mul]
    omega

/-- No whole number is nearer to the quotient than what it is rounded to. -/
theorem dist_roundHalfEven_le (hden : 0 < den) (num k : Nat) :
    Nat.dist (roundHalfEven num den * den) num ≤ Nat.dist (k * den) num := by
  rw [dist_roundHalfEven hden]
  rcases Nat.lt_or_ge (num / den) k with hk | hk
  · rw [(dist_mul_eq hden num k).2 hk]
    omega
  · rw [(dist_mul_eq hden num k).1 hk]
    omega

theorem dist_roundHalfEven_le_half (hden : 0 < den) (num : Nat) :
    2 * Nat.dist (roundHalfEven num den * den) num ≤ den := by
  rw [dist_roundHalfEven hden]
  omega

/-- A tie goes to the even number. -/
theorem even_of_dist_roundHalfEven_eq_half (hden : 0 < den)
    (h : 2 * Nat.dist (roundHalfEven num den * den) num = den) :
    roundHalfEven num den % 2 = 0 := by
  have hmod := Nat.mod_lt num hden
  rw [dist_roundHalfEven hden] at h
  rcases roundHalfEven_cases num den with ⟨hround, -, htie⟩ | ⟨hround, -, htie⟩
  · rw [hround]
    exact htie (by omega)
  · rw [hround]
    exact htie (by omega)

/-- A whole number within half a step of the quotient is what the quotient is rounded to, as long
as it is even if it is just half a step away. -/
theorem roundHalfEven_eq_of_dist (hden : 0 < den) (hle : 2 * Nat.dist (k * den) num ≤ den)
    (htie : 2 * Nat.dist (k * den) num = den → k % 2 = 0) : roundHalfEven num den = k := by
  have hmod := Nat.mod_lt num hden
  rcases Nat.lt_or_ge (num / den) k with hk | hk
  · rw [(dist_mul_eq hden num k).2 hk] at hle htie
    have hnext : k - (num / den + 1) = 0 := by
      by_contra hne
      have := Nat.le_mul_of_pos_left den (Nat.pos_of_ne_zero hne)
      omega
    rw [hnext, Nat.zero_mul] at hle htie
    rcases roundHalfEven_cases num den with ⟨hround, hhalf, heven⟩ | ⟨hround, hhalf, heven⟩
    · omega
    · omega
  · rw [(dist_mul_eq hden num k).1 hk] at hle htie
    have hsame : num / den - k = 0 := by
      by_contra hne
      have := Nat.le_mul_of_pos_left den (Nat.pos_of_ne_zero hne)
      omega
    rw [hsame, Nat.zero_mul] at hle htie
    rcases roundHalfEven_cases num den with ⟨hround, hhalf, heven⟩ | ⟨hround, hhalf, heven⟩
    · omega
    · omega

end RoundHalfEven

/-! ### Numbers of the format -/

/-- The multiples of a step, from the leading bit of the quotient on, hold every number of the
format. -/
theorem two_pow_excessBits_dvd {num den m : Nat} (hm : Representable m)
    (hle : 2 ^ (num / den).log2 ≤ m) : 2 ^ excessBits num den ∣ m := by
  have hlog : (num / den).log2 ≤ m.log2 := by
    have hpos : m ≠ 0 := Nat.ne_of_gt (Nat.lt_of_lt_of_le (Nat.two_pow_pos _) hle)
    exact (Nat.le_log2 hpos).2 hle
  refine Nat.dvd_trans (Nat.pow_dvd_pow 2 ?_) hm.2
  rw [excessBits]
  omega

/-- No multiple of the step is nearer to the quotient than what it is rounded to. -/
theorem dist_roundUnits_le_multiple (num : Nat) {den : Nat} (hden : 0 < den) (k : Nat) :
    Nat.dist (roundUnits num den * den) num ≤
      Nat.dist (k * 2 ^ excessBits num den * den) num := by
  have hstep : 0 < den * 2 ^ excessBits num den := Nat.mul_pos hden (Nat.two_pow_pos _)
  have hassoc : ∀ k, k * (den * 2 ^ excessBits num den) = k * 2 ^ excessBits num den * den :=
    fun k => by rw [Nat.mul_comm den, Nat.mul_assoc]
  rw [roundUnits, ← hassoc, ← hassoc]
  exact dist_roundHalfEven_le hstep num k

theorem two_pow_log2_mul_le {num den : Nat} (h : num / den ≠ 0) :
    2 ^ (num / den).log2 * den ≤ num :=
  Nat.le_trans (Nat.mul_le_mul_right den (Nat.log2_self_le h)) (Nat.div_mul_le_self num den)

/-- No number of the format is nearer to the quotient than what it is rounded to. -/
theorem dist_roundUnits_le (num : Nat) {den m : Nat} (hden : 0 < den) (hm : Representable m) :
    Nat.dist (roundUnits num den * den) num ≤ Nat.dist (m * den) num := by
  by_cases hle : 2 ^ (num / den).log2 ≤ m
  · obtain ⟨k, rfl⟩ := two_pow_excessBits_dvd hm hle
    rw [Nat.mul_comm _ k]
    exact dist_roundUnits_le_multiple num hden k
  · rcases Nat.eq_zero_or_pos (excessBits num den) with hzero | hpos
    · have h := dist_roundUnits_le_multiple num hden m
      rwa [hzero, Nat.pow_zero, Nat.mul_one] at h
    · -- Below the leading bit, the leading bit itself is nearer.
      have hlog : (num / den).log2 = 52 + excessBits num den := by
        rw [excessBits] at hpos ⊢
        omega
      have hne : num / den ≠ 0 := by
        intro h
        rw [h, Nat.log2_zero] at hlog
        omega
      have hlead := two_pow_log2_mul_le hne
      have hmle : m * den ≤ 2 ^ (num / den).log2 * den := Nat.mul_le_mul_right den (by omega)
      refine Nat.le_trans (dist_roundUnits_le_multiple num hden (2 ^ (52 : Nat))) ?_
      rw [← Nat.pow_add, ← hlog, Nat.dist_eq_sub_of_le hlead, Nat.dist_eq_sub_of_le (by omega)]
      omega

theorem overflowUnits_eq_mul : overflowUnits = unitsPerOne * 2 ^ (1024 : Nat) := by
  rw [overflowUnits_eq, unitsPerOne_eq, Nat.pow_add]

/-- Every finite number lies at least one below overflow. -/
theorem Representable.add_unitsPerOne_le {m : Nat} (h : Representable m) :
    m + unitsPerOne ≤ overflowUnits := by
  obtain ⟨hlt, hdvd⟩ := h
  by_cases hlog : unitExponent ≤ m.log2 - 52
  · have hunit : unitsPerOne ∣ m := by
      rw [unitsPerOne_eq]
      exact Nat.dvd_trans (Nat.pow_dvd_pow 2 hlog) hdvd
    obtain ⟨k, rfl⟩ := hunit
    rw [overflowUnits_eq_mul] at hlt ⊢
    exact Nat.mul_le_mul_left unitsPerOne (Nat.lt_of_mul_lt_mul_left hlt)
  · have hm : m < unitsPerOne * 2 ^ (52 : Nat) := by
      rw [unitsPerOne_eq, ← Nat.pow_add]
      exact Nat.lt_of_lt_of_le Nat.lt_log2_self (Nat.pow_le_pow_right (by decide) (by omega))
    have hroom := Nat.mul_le_mul_left unitsPerOne
      (Nat.succ_le_of_lt (Nat.pow_lt_pow_right Nat.one_lt_two (by decide : 52 < 1024)))
    rw [Nat.mul_succ] at hroom
    rw [overflowUnits_eq_mul]
    omega

end ThresholdCheck
