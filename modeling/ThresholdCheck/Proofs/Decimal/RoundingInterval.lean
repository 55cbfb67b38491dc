import ThresholdCheck.Decimal.Shortest
import ThresholdCheck.Proofs.Binary64.Nearest

/-!
# The interval around a number

The shortest decimal is looked for in an interval. That everything in this interval is rounded to
the number, and a decimal found there therefore reads back, is a fact about rounding and proved
here. Below a power of two the steps are half as long, which makes the interval shorter on this side
and lets the rounding take place with the shorter step.

## Main definitions

* `Magnitude.IsAround` — a quotient lies in the interval

## Main results

* `Magnitude.roundUnits_eq_of_isAround`, `Magnitude.nearest?_eq_some_of_isAround` — what lies in
  the interval is rounded to the number
* `Magnitude.readsBack_iff_isAround` — which decimals read back
-/

namespace ThresholdCheck

/- Powers of natural numbers are the core library's, whatever else is loaded. -/
attribute [local instance (2000)] instPowNat

namespace Magnitude

variable {m : Magnitude}

/-! ### Steps -/

/-- The number is a whole count of its steps, and of less than 54 bits. -/
theorem exists_significand (m : Magnitude) :
    ∃ s, m.units = s * m.step ∧ s < 2 ^ 53 ∧ m.units / m.step = s ∧
      (52 < m.units.log2 → 2 ^ 52 ≤ s) := by
  have hstep : 0 < m.step := Nat.two_pow_pos _
  obtain ⟨s, hs⟩ := m.representable.2
  have hs : m.units = s * m.step := by
    rw [Nat.mul_comm]
    exact hs
  refine ⟨s, hs, ?_, ?_, fun hlog => ?_⟩
  · have hlt : m.units < 2 ^ (m.units.log2 + 1) := Nat.lt_log2_self
    have hle : 2 ^ (m.units.log2 + 1) ≤ 2 ^ 53 * m.step := by
      rw [step, ← Nat.pow_add]
      exact Nat.pow_le_pow_right (by decide) (by omega)
    exact Nat.lt_of_mul_lt_mul_right (hs ▸ Nat.lt_of_lt_of_le hlt hle)
  · rw [hs, Nat.mul_div_cancel _ hstep]
  · have hle : 2 ^ m.units.log2 ≤ m.units := Nat.log2_self_le fun hzero => by simp [hzero] at hlog
    have hsplit : 2 ^ m.units.log2 = 2 ^ 52 * m.step := by
      have hexponent : m.units.log2 = 52 + (m.units.log2 - 52) := by omega
      rw [step, ← Nat.pow_add, ← hexponent]
    rw [hsplit] at hle
    exact Nat.le_of_mul_le_mul_right (hs ▸ hle) hstep

/-! ### Rounding in the interval -/

/-- The bounds that the interval sets to a quotient: half a step on both sides, and nothing of that
half for an odd significand. -/
structure IsAround (m : Magnitude) (num den : Nat) : Prop where
  le : m.lowerQuarters * den ≤ 4 * num
  ge : 4 * num ≤ m.upperQuarters * den
  odd : m.hasEvenSignificand = false →
    m.lowerQuarters * den < 4 * num ∧ 4 * num < m.upperQuarters * den

variable {num den : Nat}

theorem roundUnits_zero (den : Nat) : roundUnits 0 den = 0 := by
  simp [roundUnits, roundHalfEven]

theorem roundUnits_eq_of_excessBits {k s : Nat} (hden : 0 < den)
    (hbits : excessBits num den = k) (hle : 2 * Nat.dist (s * (den * 2 ^ k)) num ≤ den * 2 ^ k)
    (htie : 2 * Nat.dist (s * (den * 2 ^ k)) num = den * 2 ^ k → s % 2 = 0) :
    roundUnits num den = s * 2 ^ k := by
  rw [roundUnits, hbits,
    roundHalfEven_eq_of_dist (Nat.mul_pos hden (Nat.two_pow_pos k)) hle htie]

/-- A quotient with so many bits is rounded to a multiple of this step. -/
theorem excessBits_eq {k : Nat} (hden : 0 < den) (hlow : k = 0 ∨ 2 ^ 52 * (den * 2 ^ k) ≤ num)
    (hhigh : num < 2 ^ 53 * (den * 2 ^ k)) : excessBits num den = k := by
  have hassoc : ∀ b, 2 ^ b * (den * 2 ^ k) = 2 ^ (b + k) * den := fun b => by
    rw [Nat.pow_add, Nat.mul_assoc, Nat.mul_comm den]
  rw [hassoc] at hlow hhigh
  have hlt : num / den < 2 ^ (53 + k) := (Nat.div_lt_iff_lt_mul hden).2 hhigh
  rw [excessBits]
  rcases Nat.eq_zero_or_pos (num / den) with hzero | hpos
  · rcases hlow with rfl | hlow
    · rw [hzero, Nat.log2_zero]
    · have hle := (Nat.le_div_iff_mul_le hden).2 hlow
      have := Nat.two_pow_pos (52 + k)
      omega
  · have hlog := (Nat.log2_lt (Nat.ne_of_gt hpos)).2 hlt
    rcases hlow with rfl | hlow
    · omega
    · have hle := (Nat.le_log2 (Nat.ne_of_gt hpos)).2 ((Nat.le_div_iff_mul_le hden).2 hlow)
      omega

theorem hasEvenSignificand_iff {s : Nat} (h : m.units / m.step = s) :
    m.hasEvenSignificand = true ↔ s % 2 = 0 := by
  rw [hasEvenSignificand, h, decide_eq_true_eq]

/-- The ends of the interval, counted in steps of the quotient. -/
theorem upperQuarters_mul {s : Nat} (h : m.units = s * m.step) (den : Nat) :
    m.upperQuarters * den = 4 * (s * (den * m.step)) + 2 * (den * m.step) := by
  rw [upperQuarters, Nat.add_mul, h]
  ac_rfl

theorem lowerQuarters_mul {s : Nat} (h : m.units = s * m.step) (hs : 0 < s) (den : Nat) :
    m.isBinade = true ∧ s = 2 ^ 52 ∧
        m.lowerQuarters * den + den * m.step = 4 * (s * (den * m.step)) ∨
      m.isBinade = false ∧
        m.lowerQuarters * den + 2 * (den * m.step) = 4 * (s * (den * m.step)) := by
  have hle : m.step ≤ m.units := h ▸ Nat.le_mul_of_pos_left _ hs
  have hunits : 4 * (s * (den * m.step)) = 4 * m.units * den := by
    rw [h]
    ac_rfl
  have hdouble : 2 * (den * m.step) = 2 * m.step * den := by ac_rfl
  rw [hunits, hdouble, Nat.mul_comm den, ← Nat.add_mul, ← Nat.add_mul, lowerQuarters]
  cases hbinade : m.isBinade with
  | true =>
    rw [if_pos rfl, Nat.sub_add_cancel (by omega)]
    rw [isBinade, Bool.and_eq_true, decide_eq_true_eq, decide_eq_true_eq] at hbinade
    obtain ⟨hlog, hpower⟩ := hbinade
    refine .inl ⟨rfl, Nat.eq_of_mul_eq_mul_right (Nat.two_pow_pos (m.units.log2 - 52)) ?_, rfl⟩
    have hexponent : 52 + (m.units.log2 - 52) = m.units.log2 := by omega
    rw [← Nat.pow_add, hexponent, ← hpower]
    exact h.symm
  | false =>
    rw [if_neg Bool.false_ne_true, Nat.sub_add_cancel (by omega)]
    exact .inr ⟨rfl, rfl⟩

theorem le_lowerQuarters_mul {s : Nat} (h : m.units = s * m.step) (den : Nat) :
    4 * (s * (den * m.step)) ≤ m.lowerQuarters * den + 2 * (den * m.step) ∧
      (m.isBinade = true → 4 * (s * (den * m.step)) ≤ m.lowerQuarters * den + den * m.step) := by
  rcases Nat.eq_zero_or_pos s with rfl | hs
  · rw [Nat.zero_mul, Nat.mul_zero]
    exact ⟨Nat.zero_le _, fun _ => Nat.zero_le _⟩
  · rcases lowerQuarters_mul h hs den with ⟨-, -, hlower⟩ | ⟨hbinade, hlower⟩
    · omega
    · exact ⟨Nat.le_of_eq hlower.symm, fun htrue => by simp [hbinade] at htrue⟩

/-- Only at a power of two does the interval reach below the leading bit. -/
theorem isBinade_of_lt {s : Nat} (hden : 0 < den) (hunits : m.units = s * m.step)
    (hlog : 52 < m.units.log2) (hge : 2 ^ 52 ≤ s)
    (hlow : 4 * (s * (den * m.step)) ≤ 4 * num + 2 * (den * m.step))
    (hlt : num < 2 ^ 52 * (den * m.step)) : s = 2 ^ 52 ∧ m.isBinade = true := by
  have hstep : 0 < den * m.step := Nat.mul_pos hden (Nat.two_pow_pos _)
  have hs : s = 2 ^ 52 := by
    by_contra hne
    have hmore := Nat.mul_le_mul_right (den * m.step) (show 2 ^ 52 + 1 ≤ s by omega)
    rw [Nat.add_mul, Nat.one_mul] at hmore
    omega
  have hpower : m.units = 2 ^ m.units.log2 := by
    have hexponent : m.units.log2 = 52 + (m.units.log2 - 52) := by omega
    rw [hexponent, Nat.pow_add, ← hs]
    exact hunits
  refine ⟨hs, ?_⟩
  rw [isBinade, Bool.and_eq_true, decide_eq_true_eq, decide_eq_true_eq]
  exact ⟨hlog, hpower⟩

/-- Every quotient in the interval is rounded to the number. -/
theorem roundUnits_eq_of_isAround (hden : 0 < den) (h : m.IsAround num den) :
    roundUnits num den = m.units := by
  obtain ⟨s, hunits, hlt, hsignificand, hge⟩ := m.exists_significand
  have hupper := m.upperQuarters_mul hunits den
  obtain ⟨hlower, hbinade⟩ := m.le_lowerQuarters_mul hunits den
  have hstep : 0 < den * m.step := Nat.mul_pos hden (Nat.two_pow_pos _)
  have hle := h.le
  have hge' := h.ge
  have hhigh : num < 2 ^ 53 * (den * m.step) := by
    have hmax := Nat.mul_le_mul_right (den * m.step) (show s + 1 ≤ 2 ^ 53 from hlt)
    rw [Nat.add_mul, Nat.one_mul] at hmax
    omega
  by_cases hlow : m.units.log2 - 52 = 0 ∨ 2 ^ 52 * (den * m.step) ≤ num
  · -- the quotient is rounded with the step of the number
    have hbits : excessBits num den = m.units.log2 - 52 := excessBits_eq hden hlow hhigh
    have hdist : 2 * Nat.dist (s * (den * m.step)) num ≤ den * m.step := by
      simp only [Nat.dist]
      omega
    have htie : 2 * Nat.dist (s * (den * m.step)) num = den * m.step → s % 2 = 0 := by
      intro htie
      by_contra hodd
      have hfalse : m.hasEvenSignificand = false :=
        Bool.eq_false_iff.2 fun heven => hodd ((hasEvenSignificand_iff hsignificand).1 heven)
      have hstrict := h.odd hfalse
      simp only [Nat.dist] at htie
      omega
    have hrounded := roundUnits_eq_of_excessBits hden hbits hdist htie
    exact hrounded.trans hunits.symm
  · -- the quotient lies below a power of two, and is rounded with half of that step
    rw [not_or] at hlow
    obtain ⟨hexcess, hbelow⟩ := hlow
    have hlog : 52 < m.units.log2 := by omega
    obtain ⟨hs, htrue⟩ := isBinade_of_lt hden hunits hlog (hge hlog) (by omega)
      (Nat.not_le.1 hbelow)
    have hnear := hbinade htrue
    obtain ⟨k, hk⟩ : ∃ k, m.units.log2 - 52 = k + 1 := ⟨m.units.log2 - 53, by omega⟩
    have hhalf : m.step = 2 * 2 ^ k := by rw [step, hk, Nat.pow_succ']
    have hden_half : den * m.step = 2 * (den * 2 ^ k) := by
      rw [hhalf]
      ac_rfl
    subst hs
    have hpos : 0 < den * 2 ^ k := Nat.mul_pos hden (Nat.two_pow_pos k)
    have hbits : excessBits num den = k := excessBits_eq hden (.inr (by omega)) (by omega)
    have hdist : 2 * Nat.dist (2 ^ 53 * (den * 2 ^ k)) num ≤ den * 2 ^ k := by
      simp only [Nat.dist]
      omega
    have hrounded := roundUnits_eq_of_excessBits hden hbits hdist fun _ => by decide
    rw [hrounded, hunits, hhalf]
    omega

theorem nearest?_eq_some_of_isAround (hden : 0 < den) (h : m.IsAround num den) :
    nearest? num den = some m := by
  have hunits := roundUnits_eq_of_isAround hden h
  have hlt : roundUnits num den < overflowUnits := hunits ▸ m.representable.1
  rw [nearest?, dif_pos hlt]
  congr 1
  cases m
  simp only [mk.injEq]
  exact hunits

/-- Only the quotient counts. -/
theorem IsAround.congr {num' den' : Nat} (h : m.IsAround num den) (hden : 0 < den)
    (hden' : 0 < den') (heq : num * den' = num' * den) : m.IsAround num' den' := by
  have hscale : ∀ bound, bound * den' * den = bound * den * den' := fun bound => by ac_rfl
  have hnum : 4 * num' * den = 4 * num * den' := by
    rw [Nat.mul_assoc, ← heq, Nat.mul_assoc]
  refine ⟨?_, ?_, fun hodd => ?_⟩
  · refine Nat.le_of_mul_le_mul_right ?_ hden
    rw [hscale, hnum]
    exact Nat.mul_le_mul_right den' h.le
  · refine Nat.le_of_mul_le_mul_right ?_ hden
    rw [hscale, hnum]
    exact Nat.mul_le_mul_right den' h.ge
  · obtain ⟨hlow, hhigh⟩ := h.odd hodd
    constructor
    · refine Nat.lt_of_mul_lt_mul_right (a := den) ?_
      rw [hscale, hnum]
      exact Nat.mul_lt_mul_of_pos_right hlow hden'
    · refine Nat.lt_of_mul_lt_mul_right (a := den) ?_
      rw [hscale, hnum]
      exact Nat.mul_lt_mul_of_pos_right hhigh hden'

/-! ### Decimals in the interval -/

variable {coefficient : Nat} {scale : Int}

theorem readsBack_iff_isAround :
    m.readsBack coefficient scale = true ↔
      m.IsAround (unitsPerOne * (coefficient * 10 ^ scale.toNat)) (10 ^ (-scale).toNat) := by
  have hquarters : unitsPerOne * (4 * coefficient * 10 ^ scale.toNat) =
      4 * (unitsPerOne * (coefficient * 10 ^ scale.toNat)) := by ac_rfl
  simp only [readsBack, powerOfTen, hquarters]
  cases heven : m.hasEvenSignificand with
  | true =>
    rw [if_pos rfl, Bool.and_eq_true, decide_eq_true_eq, decide_eq_true_eq]
    constructor
    · rintro ⟨hle, hge⟩
      exact ⟨hle, hge, fun hodd => by simp [heven] at hodd⟩
    · exact fun h => ⟨h.le, h.ge⟩
  | false =>
    rw [if_neg Bool.false_ne_true, Bool.and_eq_true, decide_eq_true_eq, decide_eq_true_eq]
    constructor
    · rintro ⟨hlt, hgt⟩
      exact ⟨Nat.le_of_lt hlt, Nat.le_of_lt hgt, fun _ => ⟨hlt, hgt⟩⟩
    · exact fun h => h.odd heven

/-- A zero at the end of a coefficient moves its place. -/
theorem readsBack_mul_ten_pow (zeros : Nat) :
    m.readsBack (coefficient * 10 ^ zeros) scale = true ↔
      m.readsBack coefficient (scale + zeros) = true := by
  have hpos : ∀ n, 0 < 10 ^ n := fun n => Nat.pow_pos (by decide)
  have hexponent : zeros + scale.toNat + (-(scale + zeros)).toNat =
      (scale + zeros).toNat + (-scale).toNat := by omega
  have hsame : unitsPerOne * (coefficient * 10 ^ zeros * 10 ^ scale.toNat) *
        10 ^ (-(scale + zeros)).toNat =
      unitsPerOne * (coefficient * 10 ^ (scale + zeros).toNat) * 10 ^ (-scale).toNat := by
    simp only [Nat.mul_assoc, ← Nat.pow_add]
    rw [hexponent]
  rw [readsBack_iff_isAround, readsBack_iff_isAround]
  exact ⟨fun h => h.congr (hpos _) (hpos _) hsame, fun h => h.congr (hpos _) (hpos _) hsame.symm⟩

/-- Zero is the one number around zero. -/
theorem readsBack_zero : zero.readsBack 0 scale = true := by
  have heven : zero.hasEvenSignificand = true := by simp [hasEvenSignificand, zero]
  rw [readsBack_iff_isAround]
  refine ⟨?_, ?_, fun hodd => by simp [heven] at hodd⟩
  · simp [lowerQuarters, zero]
  · simp

end Magnitude

end ThresholdCheck
