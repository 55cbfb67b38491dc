import ThresholdCheck.Proofs.Json.Numerals

/-!
# Scaling a written significand

The significand and the power of ten are rounded, and so is what results from them. Where the first
two are numbers of the format only the last step rounds, and a decimal that would be rounded to a
number gives this number. Elsewhere the errors add up and the result can be another number; but
they stay too small to carry a written number beyond the format, except for the two greatest ones,
which are computed.

## Main results

* `Magnitude.nearest?_unitsPerOne_mul` — whole numbers of few bits are not rounded
* `two_pow_mul_roundUnits_le` — the relative error of rounding
* `Json.scaled?_eq_some_of_readsBack` — small significands and exponents are scaled exactly
* `Json.exists_scaled?_written` — what was written is never too large
-/

namespace ThresholdCheck

/- Powers of natural numbers are the core library's, whatever else is loaded. -/
attribute [local instance (2000)] instPowNat

variable {m : Magnitude} {significand : Nat} {exponent : Int}

/-! ### Without rounding -/

namespace Magnitude

theorem nearest?_units (m : Magnitude) : nearest? m.units 1 = some m := by
  have hdist := dist_roundUnits_le m.units Nat.one_pos m.representable
  rw [Nat.mul_one, Nat.mul_one, Nat.dist_self, Nat.le_zero] at hdist
  have hunits : roundUnits m.units 1 = m.units := Nat.eq_of_dist_eq_zero hdist
  have hlt : roundUnits m.units 1 < overflowUnits := by
    rw [hunits]
    exact m.representable.1
  rw [nearest?, dif_pos hlt]
  cases m
  exact congrArg some (mk.injEq .. ▸ hunits)

/-- Whole numbers of few bits are not rounded. -/
theorem nearest?_unitsPerOne_mul {n k : Nat} (hn : n < 2 ^ 53) (hk : k ≤ 900) :
    ∃ p, nearest? (unitsPerOne * (n * 2 ^ k)) 1 = some p ∧ p.units = unitsPerOne * (n * 2 ^ k) := by
  have hunits : unitsPerOne * (n * 2 ^ k) = n * 2 ^ (unitExponent + k) := by
    rw [unitsPerOne_eq, Nat.pow_add, Nat.mul_left_comm]
  have hexponent : unitExponent + k ≤ 2045 := by
    rw [unitExponent]
    omega
  obtain ⟨p, hp⟩ : ∃ p : Magnitude, p.units = n * 2 ^ (unitExponent + k) :=
    ⟨⟨_, representable_mul_two_pow hn hexponent⟩, rfl⟩
  rw [hunits, ← hp]
  exact ⟨p, p.nearest?_units, rfl⟩

end Magnitude

namespace Json

theorem tenPower?_of_le {n : Nat} (h : n ≤ 22) :
    ∃ p, tenPower? n = some p ∧ p.units = unitsPerOne * 10 ^ n := by
  have hfive : 5 ^ n < 2 ^ 53 :=
    Nat.lt_of_le_of_lt (Nat.pow_le_pow_right (by decide) h) (by decide)
  have hten : 5 ^ n * 2 ^ n = 10 ^ n := (Nat.mul_pow 5 2 n).symm
  rw [tenPower?, ← hten]
  exact Magnitude.nearest?_unitsPerOne_mul hfive (by omega)

theorem nearest?_significand (h : significand ≤ 2 ^ 53) :
    ∃ p, Magnitude.nearest? (unitsPerOne * significand) 1 = some p ∧
      p.units = unitsPerOne * significand := by
  rcases Nat.lt_or_eq_of_le h with hlt | heq
  · have hp := Magnitude.nearest?_unitsPerOne_mul hlt (Nat.zero_le 900)
    rwa [Nat.pow_zero, Nat.mul_one] at hp
  · have hp := Magnitude.nearest?_unitsPerOne_mul (show 1 < 2 ^ 53 by decide)
      (show 53 ≤ 900 by decide)
    rwa [Nat.one_mul, ← heq] at hp

/-- With a significand and a power of ten that are not rounded, a decimal gives the number that it
would be rounded to. -/
theorem scaled?_eq_some_of_readsBack (hsignificand : significand ≤ 2 ^ 53)
    (hexponent : exponent.natAbs ≤ 22) (hback : m.readsBack significand exponent = true) :
    scaled? significand exponent = some m := by
  obtain ⟨p, hp, hunits⟩ := nearest?_significand hsignificand
  have haround := Magnitude.readsBack_iff_isAround.1 hback
  have hpos := unitsPerOne_pos
  rw [scaled?, hp]
  by_cases hsign : 0 ≤ exponent
  · obtain ⟨n, rfl⟩ := Int.eq_ofNat_of_zero_le hsign
    obtain ⟨q, hq, htens⟩ := tenPower?_of_le (show n ≤ 22 by omega)
    have hzero : (-(n : Int)).toNat = 0 := by omega
    rw [Int.toNat_natCast, hzero, Nat.pow_zero] at haround
    have htimes : p.times? q = some m := by
      rw [Magnitude.times?, hunits, htens]
      refine Magnitude.nearest?_eq_some_of_isAround hpos (haround.congr Nat.one_pos hpos ?_)
      ac_rfl
    simp only [Option.bind_eq_bind, Option.bind_some, if_pos hsign, Int.toNat_natCast, raised?]
    rw [if_pos (by omega), hq, Option.bind_some, htimes]
  · obtain ⟨n, hn⟩ := Int.eq_ofNat_of_zero_le (show 0 ≤ -exponent by omega)
    obtain ⟨q, hq, htens⟩ := tenPower?_of_le (show n ≤ 22 by omega)
    have hzero : exponent.toNat = 0 := by omega
    rw [hn, Int.toNat_natCast, hzero, Nat.pow_zero, Nat.mul_one] at haround
    have hten : 0 < 10 ^ n := Nat.pow_pos (by decide)
    have hover : p.over? q = some m := by
      rw [Magnitude.over?, hunits, htens]
      refine Magnitude.nearest?_eq_some_of_isAround (Nat.mul_pos hpos hten)
        (haround.congr hten (Nat.mul_pos hpos hten) ?_)
      ac_rfl
    simp only [Option.bind_eq_bind, Option.bind_some, if_neg hsign, hn, Int.toNat_natCast]
    rw [lowered, if_pos (by omega), hq, Option.bind_some, hover, Option.getD_some]

end Json

/-! ### With rounding -/

/-- Rounding adds less than one part in `2 ^ 53`. -/
theorem two_pow_mul_roundUnits_le (num : Nat) :
    2 ^ 53 * roundUnits num 1 ≤ (2 ^ 53 + 1) * num := by
  have hstep : 0 < 1 * 2 ^ excessBits num 1 := Nat.mul_pos Nat.one_pos (Nat.two_pow_pos _)
  have hdist := dist_roundHalfEven_le_half hstep num
  have hunits : roundUnits num 1 =
      roundHalfEven num (1 * 2 ^ excessBits num 1) * (1 * 2 ^ excessBits num 1) := by
    rw [roundUnits, Nat.one_mul]
  rw [← hunits, Nat.one_mul, Nat.dist] at hdist
  rcases Nat.eq_zero_or_pos (excessBits num 1) with hzero | hpos
  · rw [hzero, Nat.pow_zero] at hdist
    omega
  · have hlog : num.log2 = 52 + excessBits num 1 := by
      rw [excessBits, Nat.div_one] at hpos ⊢
      omega
    have hlead : 2 ^ num.log2 ≤ num := Nat.log2_self_le fun hnum => by
      rw [hnum, Nat.log2_zero] at hlog
      omega
    rw [hlog, Nat.pow_add] at hlead
    omega

/-- Half of the greatest step of the format. -/
@[irreducible] def halfTopStep : Nat := 2 ^ (unitExponent + 970)

theorem halfTopStep_pos : 0 < halfTopStep := by
  unfold halfTopStep
  exact Nat.two_pow_pos _

theorem two_mul_halfTopStep : 2 * halfTopStep = 2 ^ (unitExponent + 970 + 1) := by
  unfold halfTopStep
  rw [Nat.pow_succ' (n := unitExponent + 970)]

theorem unitsPerOne_mul_overflowLimit_eq :
    unitsPerOne * overflowLimit = (2 ^ 54 - 1) * halfTopStep := by
  unfold halfTopStep
  exact unitsPerOne_mul_overflowLimit

/-- The product of two numbers that were rounded is below the limit, if the exact product keeps
some steps away from it. -/
theorem mul_lt_of_roundUnits {a b product : Nat} (hproduct : a * b = unitsPerOne * product)
    (hle : product ≤ (2 ^ 54 - 5) * halfTopStep) :
    roundUnits a 1 * roundUnits b 1 < unitsPerOne * overflowLimit * unitsPerOne := by
  by_contra hge
  have hrounded := Nat.mul_le_mul (two_pow_mul_roundUnits_le a) (two_pow_mul_roundUnits_le b)
  have hreach : unitsPerOne * (2 ^ 53 * 2 ^ 53 * ((2 ^ 54 - 1) * halfTopStep)) ≤
      unitsPerOne * ((2 ^ 53 + 1) * (2 ^ 53 + 1) * product) :=
    calc unitsPerOne * (2 ^ 53 * 2 ^ 53 * ((2 ^ 54 - 1) * halfTopStep))
      _ = 2 ^ 53 * 2 ^ 53 * (unitsPerOne * overflowLimit * unitsPerOne) := by
        rw [← unitsPerOne_mul_overflowLimit_eq, Nat.mul_left_comm,
          Nat.mul_comm unitsPerOne (unitsPerOne * overflowLimit)]
      _ ≤ 2 ^ 53 * 2 ^ 53 * (roundUnits a 1 * roundUnits b 1) :=
        Nat.mul_le_mul_left _ (Nat.not_lt.1 hge)
      _ = 2 ^ 53 * roundUnits a 1 * (2 ^ 53 * roundUnits b 1) := Nat.mul_mul_mul_comm ..
      _ ≤ (2 ^ 53 + 1) * a * ((2 ^ 53 + 1) * b) := hrounded
      _ = (2 ^ 53 + 1) * (2 ^ 53 + 1) * (a * b) := Nat.mul_mul_mul_comm ..
      _ = unitsPerOne * ((2 ^ 53 + 1) * (2 ^ 53 + 1) * product) := by
        rw [hproduct, Nat.mul_left_comm]
  have hcancelled := Nat.le_of_mul_le_mul_left hreach unitsPerOne_pos
  have hpos := halfTopStep_pos
  omega

namespace Magnitude

/-- The greatest numbers: this many steps before the last one. -/
def fromTop (count : Nat) : Magnitude where
  units := (2 ^ 53 - 1 - count) * (2 * halfTopStep)
  representable := by
    rw [two_mul_halfTopStep]
    exact representable_mul_two_pow (by omega) (by decide)

theorem step_le_or (m : Magnitude) : m.step ≤ halfTopStep ∨ m.step = 2 * halfTopStep := by
  have hlt := m.representable.1
  have hlog : m.units.log2 < unitExponent + 1024 := by
    rw [overflowUnits_eq] at hlt
    rcases Nat.eq_zero_or_pos m.units with hzero | hpos
    · rw [hzero, Nat.log2_zero, unitExponent]
      decide
    · exact (Nat.log2_lt (Nat.ne_of_gt hpos)).2 hlt
  have hbits : m.units.log2 - 52 ≤ unitExponent + 970 + 1 := by omega
  rcases Nat.lt_or_eq_of_le hbits with hless | heq
  · left
    unfold halfTopStep
    exact Nat.pow_le_pow_right (by decide) (Nat.le_of_lt_succ hless)
  · right
    rw [two_mul_halfTopStep, step, heq]

/-- But for the two greatest numbers, the interval around a number ends some steps below the
limit. -/
theorem upperQuarters_le_or (m : Magnitude) :
    m.upperQuarters ≤ 4 * ((2 ^ 54 - 5) * halfTopStep) ∨ m = fromTop 0 ∨ m = fromTop 1 := by
  obtain ⟨s, hunits, hlt, -, -⟩ := m.exists_significand
  have hpos := halfTopStep_pos
  rw [upperQuarters, hunits]
  rcases m.step_le_or with hstep | hstep
  · left
    have hs := Nat.mul_le_mul_right m.step (Nat.le_of_lt_succ hlt)
    omega
  · rw [hstep] at hunits ⊢
    by_cases hs : s ≤ 2 ^ 53 - 3
    · left
      have hmul := Nat.mul_le_mul_right (2 * halfTopStep) hs
      omega
    · right
      have hgreatest : s = 2 ^ 53 - 1 - 0 ∨ s = 2 ^ 53 - 1 - 1 := by omega
      cases m
      simp only [fromTop, mk.injEq]
      rcases hgreatest with rfl | rfl
      · exact .inl hunits
      · exact .inr hunits

theorem exists_nearest? {num den : Nat} (hden : 0 < den)
    (hlt : num < unitsPerOne * overflowLimit * den) :
    ∃ p, nearest? num den = some p ∧ p.units = roundUnits num den := by
  have hfits : roundUnits num den < overflowUnits := by
    rw [← Nat.not_le, overflowUnits_le_roundUnits_iff num hden, Nat.not_le]
    exact hlt
  exact ⟨⟨_, representable_roundUnits hfits⟩, dif_pos hfits, rfl⟩

theorem exists_nearest?_unitsPerOne_mul {n : Nat} (h : n < overflowLimit) :
    ∃ p, nearest? (unitsPerOne * n) 1 = some p ∧ p.units = roundUnits (unitsPerOne * n) 1 := by
  refine exists_nearest? Nat.one_pos ?_
  rw [Nat.mul_one]
  exact Nat.mul_lt_mul_of_pos_left h unitsPerOne_pos

end Magnitude

namespace Json

/-- The product with a power of ten is within the format, if the exact one keeps some steps away
from the limit. -/
theorem exists_raised? {p : Magnitude} {n : Nat} (hn : n ≤ 308)
    (hp : p.units = roundUnits (unitsPerOne * significand) 1)
    (hle : unitsPerOne * (significand * 10 ^ n) ≤ (2 ^ 54 - 5) * halfTopStep) :
    ∃ y, raised? p n = some y := by
  obtain ⟨q, hq, hunits⟩ := Magnitude.exists_nearest?_unitsPerOne_mul (ten_pow_lt_overflowLimit hn)
  have hproduct : unitsPerOne * significand * (unitsPerOne * 10 ^ n) =
      unitsPerOne * (unitsPerOne * (significand * 10 ^ n)) := by ac_rfl
  have hlt := mul_lt_of_roundUnits hproduct hle
  rw [← hp, ← hunits] at hlt
  obtain ⟨y, hy, -⟩ := Magnitude.exists_nearest? unitsPerOne_pos hlt
  refine ⟨y, ?_⟩
  rw [raised?, if_pos hn, tenPower?, hq, Option.bind_some, Magnitude.times?, hy]

/-- A decimal that would be rounded to a number is not too large to be read, unless the number is
one of the two greatest. -/
theorem exists_scaled? (hsignificand : significand ≤ 10 ^ 17)
    (hback : m.readsBack significand exponent = true)
    (htop : m.upperQuarters ≤ 4 * ((2 ^ 54 - 5) * halfTopStep)) :
    ∃ y, scaled? significand exponent = some y := by
  have hlimit : significand < overflowLimit :=
    Nat.lt_of_le_of_lt hsignificand (ten_pow_lt_overflowLimit (by decide))
  obtain ⟨p, hp, hunits⟩ := Magnitude.exists_nearest?_unitsPerOne_mul hlimit
  simp only [scaled?, hp, Option.bind_eq_bind, Option.bind_some]
  by_cases hsign : 0 ≤ exponent
  · rw [if_pos hsign]
    by_cases hn : exponent.toNat ≤ 308
    · have haround := (Magnitude.readsBack_iff_isAround.1 hback).ge
      have hden : (-exponent).toNat = 0 := by omega
      rw [hden, Nat.pow_zero, Nat.mul_one] at haround
      exact exists_raised? hn hunits (by omega)
    · have hzero : significand = 0 := by
        by_contra hne
        have := Magnitude.scale_le_of_readsBack hne hback
        omega
      have hnothing : p.units = 0 := by rw [hunits, hzero, Nat.mul_zero, Magnitude.roundUnits_zero]
      exact ⟨p, by rw [raised?, if_neg hn, if_pos hnothing]⟩
  · rw [if_neg hsign]
    exact ⟨_, rfl⟩

theorem isSome_scaled?_fromTop :
    ∀ count < 2, (scaled? (Magnitude.fromTop count).written.1
      (Magnitude.fromTop count).written.2).isSome := by
  decide +kernel

/-- What was written is never too large to be read. -/
theorem exists_scaled?_written (m : Magnitude) :
    ∃ y, scaled? m.written.1 m.written.2 = some y := by
  rcases m.upperQuarters_le_or with hle | rfl | rfl
  · exact exists_scaled? m.written_fst_le m.readsBack_written hle
  · exact Option.isSome_iff_exists.1 (isSome_scaled?_fromTop 0 (by decide))
  · exact Option.isSome_iff_exists.1 (isSome_scaled?_fromTop 1 (by decide))

end Json

end ThresholdCheck
