import ThresholdCheck.Binary64.Bits
import ThresholdCheck.Proofs.Decimal.Faithful
import ThresholdCheck.Proofs.Range.Record

/-!
# Bounds of a record, read again

A record holds its bounds with six fraction digits, and they are held against the definition by
what they are read as. A number is moved twice on this way: to the nearest millionth, and from there
to the nearest number. The second move is no longer than the first, since the number itself would do
as an end of it, so that both together make up a millionth at most.

Beyond `2 ^ 33` numbers are further apart than that, so that each one comes back as it was. At
`2 ^ 33` itself the number before it is near enough; but `2 ^ 33` is an integer, and is not moved at
all.

## Main definitions

* `Binary64.readBack?` — reading a bound of a record, the infinities told by their texts first

## Main results

* `Magnitude.IsNearest.abs_toRat_sub_le` — two moves are at most twice as far as the first
* `Magnitude.two_pow_le_abs_sub` — how far apart large numbers are
* `Binary64.exists_near_read?_fixedText` — what six digits are read as
* `Binary64.readBack?_eq_read?` — the infinities need no case of their own
* `Binary64.readBack?_fixedText` — all of it
-/

namespace ThresholdCheck

/- Powers of natural numbers are the core library's, whatever else is loaded. -/
attribute [local instance (2000)] instPowNat

/-! ### There and back -/

namespace Magnitude

variable {m m' : Magnitude} {q : ℚ}

/-- The number that is nearest to a rational is at most twice as far from any number as the rational
is. -/
theorem IsNearest.abs_toRat_sub_le (h : m'.IsNearest q) (m : Magnitude) :
    |m'.toRat - m.toRat| ≤ 2 * |q - m.toRat| := by
  have htriangle := abs_sub_le m'.toRat q m.toRat
  have hnearest := h.le m
  rw [abs_sub_comm m.toRat] at hnearest
  linarith

/-- The distance of two numbers, from that of the counts. -/
theorem abs_toRat_sub_toRat (m m' : Magnitude) :
    |m.toRat - m'.toRat| = (Nat.dist m.units m'.units : ℚ) / unitsPerOne := by
  have h := abs_toRat_sub m m'.units Nat.one_pos
  rwa [Nat.mul_one, Nat.mul_one] at h

/-- Numbers beyond `2 ^ 33` keep a distance of `2 ^ (-19)`. -/
theorem two_pow_le_abs_sub (hm : 2 ^ 33 < m.toRat) (hne : m' ≠ m) :
    1 / 2 ^ 19 ≤ |m'.toRat - m.toRat| := by
  obtain ⟨k, hk⟩ : ∃ k, unitExponent = 19 + k := ⟨1055, rfl⟩
  have hunit : unitsPerOne = 2 ^ 19 * 2 ^ k := by rw [unitsPerOne_eq, hk, Nat.pow_add]
  have hlarge : 2 ^ 52 * 2 ^ k < m.units := by
    rw [toRat, lt_div_iff₀ unitsPerOne_cast_pos] at hm
    have hunits : 2 ^ 33 * unitsPerOne < m.units := by exact_mod_cast hm
    rwa [hunit, ← Nat.mul_assoc, ← Nat.pow_add] at hunits
  obtain ⟨s, hs⟩ : 2 ^ k ∣ m.units := by
    have hpos : m.units ≠ 0 := Nat.ne_of_gt (Nat.lt_of_le_of_lt (Nat.zero_le _) hlarge)
    have hlog := (Nat.le_log2 hpos).2 (Nat.pow_add 2 52 k ▸ hlarge.le)
    exact Nat.dvd_trans (Nat.pow_dvd_pow 2 (by omega)) m.representable.2
  rw [Nat.mul_comm] at hs
  rw [hs] at hlarge
  have hdist : 2 ^ k ≤ Nat.dist m'.units (s * 2 ^ k) :=
    two_pow_le_dist (.inr (Nat.lt_of_mul_lt_mul_right hlarge)) m'.representable fun heq =>
      hne (eq_of_units_eq (heq.trans hs.symm))
  rw [abs_toRat_sub_toRat, hs, le_div_iff₀ unitsPerOne_cast_pos, hunit]
  have hcast : ((2 ^ k : Nat) : ℚ) ≤ (Nat.dist m'.units (s * 2 ^ k) : ℕ) := by exact_mod_cast hdist
  rwa [Nat.cast_mul, Nat.cast_pow, Nat.cast_ofNat, ← mul_assoc,
    one_div_mul_cancel (by positivity), one_mul]

/-- A large number is what its own millionths are read as. -/
theorem IsNearest.eq_of_two_pow_le (h : m'.IsNearest m.shown) (hm : 2 ^ 33 ≤ m.toRat) :
    m' = m := by
  have hback := h.abs_toRat_sub_le m
  rcases hm.eq_or_lt with heq | hlt
  · -- an integer is not moved
    have hwhole : m.isWhole := by
      refine (toRat_eq_natCast_iff (n := 2 ^ 33)).1 ?_ |>.1
      rw [← heq]
      norm_num
    rw [shown_of_isWhole hwhole, sub_self, abs_zero, mul_zero] at hback
    exact toRat_inj.1 (sub_eq_zero.1 (abs_nonpos_iff.1 hback))
  · by_contra hne
    have hfar := two_pow_le_abs_sub hlt hne
    have hhalf := m.abs_shown_sub_le
    norm_num at hfar hhalf
    linarith

end Magnitude

namespace Binary64

/-- The six digits of a finite number are read as the number of its sign that is nearest to its
millionths. -/
theorem exists_isNearest_shown (negative : Bool) (m : Magnitude) :
    ∃ m' : Magnitude, m'.IsNearest m.shown ∧
      read? (finite negative m).fixedText = some (finite negative m') := by
  obtain ⟨m', hunits, hread⟩ := read?_fixedText_finite negative m
  refine ⟨m', ?_, hread⟩
  rw [m.shown_eq_quotient]
  exact Magnitude.isNearest_of_nearest? (by decide) (Magnitude.nearest?_eq_some_iff.2 hunits.symm)

/-- What the six digits of a number are read as is near to it. -/
theorem exists_near_read?_fixedText (x : Binary64) :
    ∃ y, read? x.fixedText = some y ∧ (y = nan ↔ x = nan) ∧
      (x.isInfinite = true ∨ x.isFinite = true ∧ 2 ^ 33 ≤ |x.toRat| → y = x) ∧
      (x.isFinite = true → y.isFinite = true ∧ |y.toRat - x.toRat| ≤ 10 ^ (-6 : ℤ)) := by
  cases x with
  | nan => exact ⟨nan, rfl, by simp [isInfinite, isFinite]⟩
  | infinite negative =>
    refine ⟨infinite negative, ?_, by simp [isFinite]⟩
    cases negative <;> rfl
  | finite negative m =>
    obtain ⟨m', hnearest, hread⟩ := exists_isNearest_shown negative m
    refine ⟨finite negative m', hread, by simp, ?_, fun _ => ⟨rfl, ?_⟩⟩
    · rintro (hinfinite | ⟨-, hlarge⟩)
      · cases hinfinite
      · rw [toRat, abs_signedRat, abs_of_nonneg m.toRat_nonneg] at hlarge
        rw [hnearest.eq_of_two_pow_le hlarge]
    · have hmillionth := hnearest.abs_toRat_sub_le m
      have hhalf := m.abs_shown_sub_le
      rw [toRat, toRat, abs_signedRat_sub]
      norm_num at hhalf ⊢
      linarith

/-- The number of a bound in a record, the texts of the two infinities taken first. -/
def readBack? (t : Text) : Option Binary64 :=
  if t = "+Inf".toList then some posInf
  else if t = "-Inf".toList then some negInf
  else read? t

/-- These texts are read as the infinities anyway. -/
theorem readBack?_eq_read? (t : Text) : readBack? t = read? t := by
  rw [readBack?]
  split
  · rename_i hpositive
    rw [hpositive]
    rfl
  · split
    · rename_i hnegative
      rw [hnegative]
      rfl
    · rfl

end Binary64

/-- The bounds of a record are held against those of its definition by their six digits. -/
theorem AlertRange.checkBound_eq_ok_iff_readBack? {name written definition : Text}
    {bound : Binary64} :
    checkBound name written bound definition = .ok () ↔
      ∃ value, Binary64.readBack? written = some value ∧ value.fixedText = bound.fixedText := by
  rw [checkBound_eq_ok_iff, Binary64.readBack?_eq_read?]

namespace Binary64

/-- **Six digits are stable when they are read again.** The six digits of any number are read, as a
number with the same six digits. It is NaN if the number was, the number itself if that was infinite
or at least `2 ^ 33` in size, and off by a millionth at most if it was finite. This is the number
that a bound is held against if a record has these digits for it, so that the record is accepted for
just the bounds that are written with them. -/
theorem readBack?_fixedText (x : Binary64) :
    ∃ y, readBack? x.fixedText = some y ∧ y.fixedText = x.fixedText ∧ (y = nan ↔ x = nan) ∧
      (x.isInfinite = true ∨ x.isFinite = true ∧ 2 ^ 33 ≤ |x.toRat| → y = x) ∧
      (x.isFinite = true → y.isFinite = true ∧ |y.toRat - x.toRat| ≤ 10 ^ (-6 : ℤ)) ∧
      ∀ (name definition : Text) (bound : Binary64),
        AlertRange.checkBound name x.fixedText bound definition = .ok () ↔
          y.fixedText = bound.fixedText := by
  obtain ⟨y, hread, htext⟩ := x.exists_read?_fixedText
  obtain ⟨z, hread', hnan, hlarge, hnear⟩ := x.exists_near_read?_fixedText
  obtain rfl : y = z := Option.some.inj (hread.symm.trans hread')
  have hback : readBack? x.fixedText = some y := (readBack?_eq_read? _).trans hread
  refine ⟨y, hback, htext, hnan, hlarge, hnear, fun name definition bound => ?_⟩
  rw [AlertRange.checkBound_eq_ok_iff_readBack?, hback]
  simp

/-- Just beyond `2 ^ 32` a number can still come back as the one before it. -/
theorem readBack?_fixedText_moved :
    let x := ofBits 0x41f000000000000b
    let y := ofBits 0x41f000000000000a
    x.isFinite = true ∧ x.fixedText = "4294967296.000010".toList ∧
      readBack? x.fixedText = some y ∧ y ≠ x ∧ y.fixedText = x.fixedText ∧
      |y.toRat - x.toRat| ≤ 10 ^ (-6 : ℤ) := by
  intro x y
  have hx : x.isFinite = true := by decide +kernel
  have hback : readBack? x.fixedText = some y := by decide +kernel
  obtain ⟨z, hread, htext, -, -, hfinite, -⟩ := readBack?_fixedText x
  obtain rfl : y = z := Option.some.inj (hback.symm.trans hread)
  exact ⟨hx, by decide +kernel, hback, by decide +kernel, htext, (hfinite hx).2⟩

end Binary64

end ThresholdCheck
