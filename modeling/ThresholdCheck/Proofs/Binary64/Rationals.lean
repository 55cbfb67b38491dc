import Mathlib.Algebra.Order.Field.Basic
import Mathlib.Algebra.Order.Ring.Abs
import Mathlib.Data.Rat.Cast.Order
import Mathlib.Tactic.Linarith
import Mathlib.Tactic.Ring
import ThresholdCheck.Proofs.Decimal.RoundingInterval

/-!
# Numbers as rationals

A finite number has an exact value, and rounding picks the number whose value is nearest to a
rational. Said so, without counting units, it determines the number: of two equally near numbers
just one has an even significand, since with two even ones another number would lie between them.
And it keeps the order, for a rational that is rounded up past another one is not the smaller of
the two.

## Main definitions

* `Magnitude.toRat`, `Binary64.toRat` — exact values
* `Magnitude.IsNearest`, `Binary64.IsNearest` — a number is nearest to a rational, ties to even

## Main results

* `Magnitude.isNearest_of_nearest?` — rounding finds the nearest number
* `Magnitude.IsNearest.unique` — there is only one
* `Magnitude.IsNearest.units_le` — the order is kept
* `Binary64.isNearest_finite_iff` — signs can be left out
* `Binary64.finite_le_of_isNearest` — and the order is kept with signs as well
-/

namespace ThresholdCheck

/- Powers of natural numbers are the core library's, whatever else is loaded. -/
attribute [local instance (2000)] instPowNat

/-- Of two rationals, the nearer one is on the side of the middle. -/
theorem abs_sub_le_abs_sub_iff {a b q : ℚ} (h : a < b) :
    (|a - q| ≤ |b - q| ↔ 2 * q ≤ a + b) ∧ (|b - q| ≤ |a - q| ↔ a + b ≤ 2 * q) := by
  have hpos : 0 < b - a := sub_pos.2 h
  have hleft : (b - q) ^ 2 - (a - q) ^ 2 = (b - a) * (a + b - 2 * q) := by ring
  have hright : (a - q) ^ 2 - (b - q) ^ 2 = (b - a) * (2 * q - (a + b)) := by ring
  constructor
  · rw [← sq_le_sq, ← sub_nonneg, hleft, mul_nonneg_iff_of_pos_left hpos, sub_nonneg]
  · rw [← sq_le_sq, ← sub_nonneg, hright, mul_nonneg_iff_of_pos_left hpos, sub_nonneg]

namespace Magnitude

variable {m m' : Magnitude} {num den : Nat}

theorem eq_of_units_eq (h : m.units = m'.units) : m = m' := by
  cases m
  cases m'
  cases h
  rfl

/-! ### Significands -/

/-- A number of 53 bits, times a power of two, has just that step, unless a smaller step would
do. -/
theorem step_eq {s k : Nat} (hunits : m.units = s * 2 ^ k) (hlt : s < 2 ^ 53)
    (hlead : k = 0 ∨ 2 ^ 52 ≤ s) : m.step = 2 ^ k := by
  have hhigh : m.units < 2 ^ (53 + k) := by
    rw [hunits, Nat.pow_add]
    exact Nat.mul_lt_mul_of_pos_right hlt (Nat.two_pow_pos k)
  rw [step]
  congr 1
  rcases hlead with rfl | hge
  · rcases Nat.eq_zero_or_pos m.units with hzero | hpos
    · rw [hzero, Nat.log2_zero]
    · have hlog := (Nat.log2_lt (Nat.ne_of_gt hpos)).2 hhigh
      omega
  · have hlow : 2 ^ (52 + k) ≤ m.units := by
      rw [hunits, Nat.pow_add]
      exact Nat.mul_le_mul_right _ hge
    have hne : m.units ≠ 0 := Nat.ne_of_gt (Nat.lt_of_lt_of_le (Nat.two_pow_pos _) hlow)
    have hlog := (Nat.log2_lt hne).2 hhigh
    have hlog' := (Nat.le_log2 hne).2 hlow
    omega

theorem hasEvenSignificand_iff_of_units {s k : Nat} (hunits : m.units = s * 2 ^ k)
    (hlt : s < 2 ^ 53) (hlead : k = 0 ∨ 2 ^ 52 ≤ s) :
    m.hasEvenSignificand = true ↔ s % 2 = 0 := by
  refine hasEvenSignificand_iff ?_
  rw [step_eq hunits hlt hlead, hunits, Nat.mul_div_cancel _ (Nat.two_pow_pos k)]

/-- Numbers keep the distance of a step from a number that is more than its leading bit. -/
theorem two_pow_le_dist {s k n : Nat} (hlead : k = 0 ∨ 2 ^ 52 < s) (hn : Representable n)
    (hne : n ≠ s * 2 ^ k) : 2 ^ k ≤ Nat.dist n (s * 2 ^ k) := by
  by_cases hdvd : 2 ^ k ∣ n
  · obtain ⟨t, rfl⟩ := hdvd
    rw [Nat.mul_comm (2 ^ k) t, Nat.dist_mul_right]
    refine Nat.le_mul_of_pos_left _ (Nat.pos_of_ne_zero fun hdist => hne ?_)
    rw [Nat.eq_of_dist_eq_zero hdist, Nat.mul_comm]
  · -- the number lies below the leading bit, from which the significand is a step away
    have hk : k ≠ 0 := fun hk => hdvd (by rw [hk, Nat.pow_zero]; exact Nat.one_dvd n)
    have hlow : n < 2 ^ 52 * 2 ^ k := by
      by_contra hge
      rw [Nat.not_lt, ← Nat.pow_add] at hge
      have hpos : n ≠ 0 := Nat.ne_of_gt (Nat.lt_of_lt_of_le (Nat.two_pow_pos _) hge)
      have hlog := (Nat.le_log2 hpos).2 hge
      exact hdvd (Nat.dvd_trans (Nat.pow_dvd_pow 2 (by omega)) hn.2)
    have hhigh := Nat.mul_le_mul_right (2 ^ k) (Nat.succ_le_of_lt (hlead.resolve_left hk))
    rw [Nat.succ_mul] at hhigh
    rw [Nat.dist_eq_sub_of_le (by omega)]
    omega

/-! ### Ties -/

/-- A quotient with more than 53 bits keeps the leading one. -/
theorem excessBits_eq_zero_or (num den : Nat) :
    excessBits num den = 0 ∨ 2 ^ 52 ≤ roundHalfEven num (den * 2 ^ excessBits num den) := by
  rw [or_iff_not_imp_left]
  intro hbits
  have hlog : 52 + excessBits num den = (num / den).log2 := by
    rw [excessBits] at hbits ⊢
    omega
  have hne : num / den ≠ 0 := by
    intro hzero
    rw [hzero, Nat.log2_zero] at hlog
    omega
  refine Nat.le_trans ?_ (div_le_roundHalfEven _ _)
  rw [← Nat.div_div_eq_div_mul, Nat.le_div_iff_mul_le (Nat.two_pow_pos _), ← Nat.pow_add, hlog]
  exact Nat.log2_self_le hne

/-- If another number is as near to the quotient as the one it is rounded to, the latter has an
even significand. -/
theorem hasEvenSignificand_of_dist_eq (hden : 0 < den) (hm : roundUnits num den = m.units)
    (hne : m' ≠ m) (htie : Nat.dist (m'.units * den) num = Nat.dist (m.units * den) num) :
    m.hasEvenSignificand = true := by
  have hstep : 0 < den * 2 ^ excessBits num den := Nat.mul_pos hden (Nat.two_pow_pos _)
  have hle := roundHalfEven_excessBits_le num den
  have hlead := excessBits_eq_zero_or num den
  have hhalf := dist_roundHalfEven_le_half hstep num
  have heven : _ → roundHalfEven num (den * 2 ^ excessBits num den) % 2 = 0 :=
    even_of_dist_roundHalfEven_eq_half hstep
  have hunits := hm.symm
  rw [roundUnits] at hunits
  generalize roundHalfEven num (den * 2 ^ excessBits num den) = s at *
  generalize excessBits num den = k at *
  have hassoc : s * (den * 2 ^ k) = m.units * den := by
    rw [hunits]
    ac_rfl
  rw [hassoc] at hhalf heven
  rcases Nat.lt_or_eq_of_le hle with hlt | rfl
  · rw [hasEvenSignificand_iff_of_units hunits hlt hlead]
    by_contra hodd
    have hother : m'.units ≠ s * 2 ^ k := fun hsame =>
      hne (eq_of_units_eq (hsame.trans hunits.symm))
    have hfar := Nat.mul_le_mul_right den
      (two_pow_le_dist (hlead.imp_right (by omega)) m'.representable hother)
    rw [← Nat.dist_mul_right, ← hunits, Nat.mul_comm (2 ^ k)] at hfar
    have htriangle := Nat.dist.triangle_inequality (m'.units * den) num (m.units * den)
    rw [Nat.dist_comm num] at htriangle
    exact hodd (heven (by omega))
  · -- rounding has reached the next power of two
    have hpower : m.units = 2 ^ 52 * 2 ^ (k + 1) := by
      rw [hunits, Nat.pow_succ]
      omega
    exact (hasEvenSignificand_iff_of_units hpower (by decide) (.inr (Nat.le_refl _))).2 (by decide)

/-! ### Exact values -/

/-- The exact value of a magnitude. -/
def toRat (m : Magnitude) : ℚ := m.units / unitsPerOne

theorem unitsPerOne_cast_pos : (0 : ℚ) < unitsPerOne := by exact_mod_cast unitsPerOne_pos

theorem toRat_nonneg (m : Magnitude) : 0 ≤ m.toRat :=
  div_nonneg (Nat.cast_nonneg _) unitsPerOne_cast_pos.le

theorem toRat_le_iff : m.toRat ≤ m'.toRat ↔ m.units ≤ m'.units := by
  rw [toRat, toRat, div_le_div_iff_of_pos_right unitsPerOne_cast_pos, Nat.cast_le]

theorem toRat_lt_iff : m.toRat < m'.toRat ↔ m.units < m'.units := by
  rw [toRat, toRat, div_lt_div_iff_of_pos_right unitsPerOne_cast_pos, Nat.cast_lt]

theorem toRat_inj : m.toRat = m'.toRat ↔ m = m' := by
  constructor
  · intro h
    exact eq_of_units_eq (Nat.le_antisymm (toRat_le_iff.1 h.le) (toRat_le_iff.1 h.ge))
  · rintro rfl
    rfl

theorem toRat_zero : zero.toRat = 0 := by simp [toRat, zero]

/-- The distance to a quotient of units, from that of the counts. -/
theorem abs_toRat_sub (m : Magnitude) (num : Nat) (hden : 0 < den) :
    |m.toRat - num / (unitsPerOne * den : Nat)| =
      (Nat.dist (m.units * den) num : ℚ) / (unitsPerOne * den : Nat) := by
  have hpos : (0 : ℚ) < (unitsPerOne * den : Nat) := by
    exact_mod_cast Nat.mul_pos unitsPerOne_pos hden
  have hvalue : m.toRat = (m.units * den : Nat) / (unitsPerOne * den : Nat) := by
    have hne : (den : ℚ) ≠ 0 := by exact_mod_cast Nat.ne_of_gt hden
    rw [toRat, Nat.cast_mul, Nat.cast_mul, mul_div_mul_right _ _ hne]
  rw [hvalue, ← sub_div, abs_div, abs_of_pos hpos]
  congr 1
  rcases Nat.le_total (m.units * den) num with hle | hle
  · rw [Nat.dist_eq_sub_of_le hle, Nat.cast_sub hle, abs_sub_comm]
    exact abs_of_nonneg (sub_nonneg.2 (Nat.cast_le.2 hle))
  · rw [Nat.dist_eq_sub_of_le_right hle, Nat.cast_sub hle]
    exact abs_of_nonneg (sub_nonneg.2 (Nat.cast_le.2 hle))

/-! ### The nearest number -/

variable {q q' : ℚ}

/-- No magnitude is nearer to the rational, and if another one is as near, this one has an even
significand. -/
structure IsNearest (m : Magnitude) (q : ℚ) : Prop where
  le : ∀ other : Magnitude, |m.toRat - q| ≤ |other.toRat - q|
  even : ∀ other : Magnitude, other ≠ m → |other.toRat - q| = |m.toRat - q| →
    m.hasEvenSignificand = true

theorem nearest?_eq_some_iff :
    nearest? num den = some m ↔ roundUnits num den = m.units := by
  rw [nearest?]
  constructor
  · intro h
    split at h
    · cases h
      rfl
    · cases h
  · intro hunits
    have hlt : roundUnits num den < overflowUnits := hunits ▸ m.representable.1
    rw [dif_pos hlt, Option.some.injEq]
    exact eq_of_units_eq hunits

/-- What a quotient is rounded to is nearest to it. -/
theorem isNearest_of_nearest? (hden : 0 < den) (h : nearest? num den = some m) :
    m.IsNearest (num / (unitsPerOne * den : Nat)) := by
  have hunits := nearest?_eq_some_iff.1 h
  have hpos : (0 : ℚ) < (unitsPerOne * den : Nat) := by
    exact_mod_cast Nat.mul_pos unitsPerOne_pos hden
  refine ⟨fun other => ?_, fun other hne htie => ?_⟩
  · rw [abs_toRat_sub m num hden, abs_toRat_sub other num hden, div_le_div_iff_of_pos_right hpos,
      Nat.cast_le, ← hunits]
    exact dist_roundUnits_le num hden other.representable
  · rw [abs_toRat_sub m num hden, abs_toRat_sub other num hden, div_left_inj' hpos.ne',
      Nat.cast_inj] at htie
    exact hasEvenSignificand_of_dist_eq hden hunits hne htie

/-- Between two numbers with even significands lies another one. -/
theorem exists_between (hlt : m.units < m'.units) (heven : m.hasEvenSignificand = true)
    (heven' : m'.hasEvenSignificand = true) :
    ∃ other : Magnitude, m.units < other.units ∧ other.units < m'.units := by
  obtain ⟨s, hunits, hs, hsignificand, hlead⟩ := m.exists_significand
  have hmod := (hasEvenSignificand_iff hsignificand).1 heven
  have hstep : 0 < m.step := Nat.two_pow_pos _
  have hnext : m.units + m.step = (s + 1) * m.step := by rw [Nat.succ_mul, ← hunits]
  -- the next number has an odd significand
  have hlt53 : s + 1 < 2 ^ 53 := by omega
  have hlead' : m.units.log2 - 52 = 0 ∨ 2 ^ 52 ≤ s + 1 := by
    rcases Nat.lt_or_ge 52 m.units.log2 with hlog | hlog
    · exact .inr (Nat.le_succ_of_le (hlead hlog))
    · exact .inl (by omega)
  have hle : m.units + m.step ≤ m'.units := by
    have hlog : m.units.log2 ≤ m'.units.log2 := by
      rcases Nat.eq_zero_or_pos m.units with hzero | hpos
      · rw [hzero, Nat.log2_zero]
        exact Nat.zero_le _
      · exact (Nat.le_log2 (by omega)).2
          (Nat.le_trans (Nat.log2_self_le (Nat.ne_of_gt hpos)) (Nat.le_of_lt hlt))
    obtain ⟨t, ht⟩ : m.step ∣ m'.units :=
      Nat.dvd_trans (Nat.pow_dvd_pow 2 (by omega)) m'.representable.2
    rw [hunits, ht, Nat.mul_comm m.step] at hlt
    rw [hnext, ht, Nat.mul_comm m.step]
    exact Nat.mul_le_mul_right _ (Nat.lt_of_mul_lt_mul_right hlt)
  have hrepresentable : Representable (m.units + m.step) := by
    have hlog : m.units.log2 < unitExponent + 1024 := by
      rcases Nat.eq_zero_or_pos m.units with hzero | hpos
      · rw [hzero, Nat.log2_zero]
        decide
      · exact (Nat.log2_lt (Nat.ne_of_gt hpos)).2 (overflowUnits_eq ▸ m.representable.1)
    rw [unitExponent] at hlog
    rw [hnext]
    exact representable_mul_two_pow hlt53 (by omega)
  refine ⟨⟨m.units + m.step, hrepresentable⟩, Nat.lt_add_of_pos_right hstep,
    Nat.lt_of_le_of_ne hle fun hsame => ?_⟩
  have hodd := (hasEvenSignificand_iff_of_units (hsame.symm.trans hnext) hlt53 hlead').1 heven'
  omega

/-- Two different numbers are not both nearest to a rational: it would lie in the middle, and what
lies between them would be nearer. -/
theorem IsNearest.not_lt (h : m.IsNearest q) (h' : m'.IsNearest q) : ¬ m.units < m'.units := by
  intro hlt
  have htie : |m.toRat - q| = |m'.toRat - q| := le_antisymm (h.le m') (h'.le m)
  have hne : m ≠ m' := by
    rintro rfl
    exact Nat.lt_irrefl _ hlt
  obtain ⟨other, hlow, hhigh⟩ :=
    exists_between hlt (h.even m' hne.symm htie.symm) (h'.even m hne htie)
  rw [← toRat_lt_iff] at hlow hhigh
  have hmiddle := (abs_sub_le_abs_sub_iff (hlow.trans hhigh)).2.1 htie.ge
  have hnearer := (abs_sub_le_abs_sub_iff hlow).1.1 (h.le other)
  linarith

/-- Only one number is nearest to a rational. -/
theorem IsNearest.unique (h : m.IsNearest q) (h' : m'.IsNearest q) : m = m' :=
  eq_of_units_eq (Nat.le_antisymm (Nat.not_lt.1 (h'.not_lt h)) (Nat.not_lt.1 (h.not_lt h')))

/-- The numbers that are nearest to two rationals are in the same order. -/
theorem IsNearest.units_le (h : m.IsNearest q) (h' : m'.IsNearest q') (hle : q ≤ q') :
    m.units ≤ m'.units := by
  by_contra hlt
  rw [Nat.not_le, ← toRat_lt_iff] at hlt
  -- both rationals lie in the middle
  have hlow := (abs_sub_le_abs_sub_iff hlt).2.1 (h.le m')
  have hhigh := (abs_sub_le_abs_sub_iff hlt).1.1 (h'.le m)
  have hsame : q = q' := by linarith
  subst hsame
  exact absurd (toRat_inj.2 (h.unique h')).le hlt.not_ge

/-- A number is nearest to its own value. -/
theorem isNearest_toRat (m : Magnitude) : m.IsNearest m.toRat := by
  refine ⟨fun other => ?_, fun other hne htie => ?_⟩
  · rw [sub_self, abs_zero]
    exact abs_nonneg _
  · rw [sub_self, abs_zero, abs_eq_zero, sub_eq_zero, toRat_inj] at htie
    exact absurd htie hne

theorem isNearest_zero : zero.IsNearest 0 := by
  have hzero := isNearest_toRat zero
  rwa [toRat_zero] at hzero

theorem IsNearest.eq_zero (h : m.IsNearest 0) : m = zero := h.unique isNearest_zero

end Magnitude

/-! ### Signs -/

/-- A rational with a sign. -/
def signedRat (negative : Bool) (q : ℚ) : ℚ := if negative then -q else q

section SignedRat

variable {negative : Bool} {p q : ℚ}

theorem abs_signedRat (negative : Bool) (q : ℚ) : |signedRat negative q| = |q| := by
  cases negative <;> simp [signedRat]

theorem signedRat_inj : signedRat negative p = signedRat negative q ↔ p = q := by
  cases negative <;> simp [signedRat]

theorem abs_signedRat_sub (negative : Bool) (p q : ℚ) :
    |signedRat negative p - signedRat negative q| = |p - q| := by
  have hsub : signedRat negative p - signedRat negative q = signedRat negative (p - q) := by
    cases negative <;> simp [signedRat]
    ring
  rw [hsub, abs_signedRat]

/-- Rationals on both sides of zero are apart by the sum of their sizes. -/
theorem abs_signedRat_not_sub (negative : Bool) (hp : 0 ≤ p) (hq : 0 ≤ q) :
    |signedRat (!negative) p - signedRat negative q| = p + q := by
  have hsub : signedRat (!negative) p - signedRat negative q = signedRat (!negative) (p + q) := by
    cases negative <;> simp [signedRat]
    ring
  rw [hsub, abs_signedRat, abs_of_nonneg (add_nonneg hp hq)]

end SignedRat

namespace Binary64

/-- Whether the number is finite. -/
def isFinite : Binary64 → Bool
  | finite _ _ => true
  | _ => false

theorem exists_eq_finite {x : Binary64} (h : x.isFinite = true) :
    ∃ negative m, x = finite negative m := by
  cases x with
  | nan => cases h
  | infinite negative => cases h
  | finite negative m => exact ⟨negative, m, rfl⟩

/-- The exact value of a finite number; the others have none. -/
def toRat : Binary64 → ℚ
  | finite negative m => signedRat negative m.toRat
  | _ => 0

/-- Whether the significand of a finite number is even. -/
def hasEvenSignificand : Binary64 → Bool
  | finite _ m => m.hasEvenSignificand
  | _ => false

/-- No finite number is nearer to the rational than this one, and if another value is as near, this
one has an even significand. -/
structure IsNearest (x : Binary64) (q : ℚ) : Prop where
  isFinite : x.isFinite = true
  le : ∀ y : Binary64, y.isFinite = true → |x.toRat - q| ≤ |y.toRat - q|
  even : ∀ y : Binary64, y.isFinite = true → y.toRat ≠ x.toRat →
    |y.toRat - q| = |x.toRat - q| → x.hasEvenSignificand = true

variable {negative negative' : Bool} {m m' : Magnitude} {p q : ℚ}

/-- A number of the sign of a rational is nearest to it if the magnitude is: those of the other sign
are no nearer. -/
theorem isNearest_finite_iff (hq : 0 ≤ q) :
    (finite negative m).IsNearest (signedRat negative q) ↔ m.IsNearest q := by
  constructor
  · intro h
    refine ⟨fun other => ?_, fun other hne htie => ?_⟩
    · have hle := h.le (finite negative other) rfl
      rwa [toRat, toRat, abs_signedRat_sub, abs_signedRat_sub] at hle
    · refine h.even (finite negative other) rfl ?_ ?_
      · rw [toRat, toRat, ne_eq, signedRat_inj, Magnitude.toRat_inj]
        exact hne
      · rw [toRat, toRat, abs_signedRat_sub, abs_signedRat_sub]
        exact htie
  · intro h
    -- the size of the other sign is no nearer than the same size with this sign
    have hfar : ∀ other : Magnitude, |other.toRat - q| ≤ other.toRat + q := fun other =>
      abs_le.2 ⟨by linarith [other.toRat_nonneg], by linarith⟩
    refine ⟨rfl, fun y hy => ?_, fun y hy hne htie => ?_⟩
    · cases y with
      | finite sign other =>
        rw [toRat, toRat, abs_signedRat_sub]
        by_cases hsign : sign = negative
        · rw [hsign, abs_signedRat_sub]
          exact h.le other
        · obtain rfl : sign = !negative := Bool.eq_not_of_ne hsign
          rw [abs_signedRat_not_sub _ other.toRat_nonneg hq]
          exact (h.le other).trans (hfar other)
      | nan => cases hy
      | infinite sign => cases hy
    · cases y with
      | finite sign other =>
        rw [toRat, toRat] at hne htie
        rw [abs_signedRat_sub] at htie
        by_cases hsign : sign = negative
        · rw [hsign, abs_signedRat_sub] at htie
          rw [hsign, ne_eq, signedRat_inj, Magnitude.toRat_inj] at hne
          exact h.even other hne htie
        · obtain rfl : sign = !negative := Bool.eq_not_of_ne hsign
          rw [abs_signedRat_not_sub _ other.toRat_nonneg hq] at htie
          refine h.even other ?_ (le_antisymm (htie ▸ hfar other) (h.le other))
          rintro rfl
          -- the number is not zero, so the rational is, and zero is nearest to it
          have hvalue : other.toRat ≠ 0 := by
            intro hzero
            rw [hzero] at hne
            exact hne (by simp [signedRat])
          have hrational : q = 0 := by
            rcases abs_choice (other.toRat - q) with habs | habs <;> rw [habs] at htie
            · linarith
            · exact absurd (by linarith) hvalue
          subst hrational
          exact hvalue (by rw [h.eq_zero, Magnitude.toRat_zero])
      | nan => cases hy
      | infinite sign => cases hy

/-- The numbers that are nearest to two signed rationals are in the same order. -/
theorem finite_le_of_isNearest (hp : 0 ≤ p) (hq : 0 ≤ q) (h : m.IsNearest p)
    (h' : m'.IsNearest q) (hle : signedRat negative p ≤ signedRat negative' q) :
    (finite negative m).le (finite negative' m') = true := by
  change decide (signed negative m.units ≤ signed negative' m'.units) = true
  rw [decide_eq_true_iff]
  cases negative <;> cases negative' <;> simp only [signedRat, signed, if_true, if_false,
    Bool.false_eq_true, neg_le_neg_iff, Nat.cast_le] at hle ⊢
  case false.false => exact h.units_le h' hle
  case true.true => exact h'.units_le h hle
  case true.false => omega
  case false.true =>
    obtain rfl : p = 0 := by linarith
    obtain rfl : q = 0 := by linarith
    rw [h.eq_zero, h'.eq_zero]
    decide

end Binary64

end ThresholdCheck
