import ThresholdCheck.Proofs.Range.Bounds

/-!
# Rounding and the order of bounds

The ends of a range are rounded each on its own, and compared as numbers. Rounding keeps the order,
so that a range whose ends are in order as they are written is never refused as reversed; and a
reversed one is accepted only where rounding takes both ends to the same number.

## Main results

* `Text.IsDecimal.exists_nearest` — what a decimal is read as
* `Text.IsDecimal.le_of_le` — bounds are in the order of their texts
* `AlertRange.read_between` — a range with two ends is refused if they are reversed
* `AlertRange.read_of_isDecimal` — the headline
-/

namespace ThresholdCheck

open Binary64 (finite)

variable {a b t : Text} {negative negative' : Bool} {p q : ℚ} {x y : Binary64} {sense : Sense}

/-! ### Bounds -/

theorem Text.IsDecimal.exists_size (h : t.IsDecimal negative q) :
    ∃ size, 0 ≤ size ∧ q = signedRat negative size := by
  obtain ⟨coefficient, scale, -, rfl⟩ := Text.isDecimal_iff.1 h
  exact ⟨_, by positivity, rfl⟩

/-- A decimal that is accepted is read as a number of its sign that is nearest to its size. -/
theorem Text.IsDecimal.exists_nearest (h : t.IsDecimal negative q) (hread : readBound t = .ok x) :
    ∃ size m, 0 ≤ size ∧ q = signedRat negative size ∧ x = finite negative m ∧
      m.IsNearest size := by
  obtain ⟨size, hsize, rfl⟩ := h.exists_size
  rcases h.boundReading with ⟨m, hnearest, hreading⟩ | hreading
  · cases (readBound_of_boundReading hreading).symm.trans hread
    exact ⟨size, m, hsize, rfl, rfl, (Binary64.isNearest_finite_iff hsize).1 hnearest⟩
  · cases (readBound_of_boundReading hreading).symm.trans hread

/-- Bounds are in the order of the exact values of their texts. -/
theorem Text.IsDecimal.le_of_le (ha : a.IsDecimal negative p) (hb : b.IsDecimal negative' q)
    (hx : readBound a = .ok x) (hy : readBound b = .ok y) (hle : p ≤ q) : x.le y = true := by
  obtain ⟨size, m, hsize, rfl, rfl, hm⟩ := ha.exists_nearest hx
  obtain ⟨size', m', hsize', rfl, rfl, hm'⟩ := hb.exists_nearest hy
  exact Binary64.finite_le_of_isNearest hsize hsize' hm hm' hle

theorem Text.IsDecimal.ne_nan (h : t.IsDecimal negative q) (hread : readBound t = .ok x) :
    x ≠ .nan := by
  obtain ⟨size, m, -, -, rfl, -⟩ := h.exists_nearest hread
  simp

/-- Zero is not above the bound of a decimal that is not below zero. -/
theorem Text.IsDecimal.zero_le (h : t.IsDecimal negative q) (hread : readBound t = .ok x)
    (hq : 0 ≤ q) : (Binary64.zero false).le x = true := by
  obtain ⟨size, m, hsize, rfl, rfl, hm⟩ := h.exists_nearest hread
  exact Binary64.finite_le_of_isNearest le_rfl hsize Magnitude.isNearest_zero hm hq

/-! ### Ranges -/

namespace AlertRange

/-- Bounds that are read make a range on either side, unless they are reversed. -/
theorem read_of_spans {form : BoundsForm} {bounds : Text} (hsided : Sided t sense bounds)
    (hspans : Spans form bounds x y) :
    AlertRange.read t =
      if y.lt x then .error .reversedBounds else .ok ⟨[], t, ⟨sense, x, y⟩⟩ := by
  have hcut := cutMetric_of_not_mem (hsided.comma_not_mem_iff.2 hspans.comma_not_mem)
  rw [AlertRange.read, hcut]
  simp only [bind, Except.bind, Zone.read, hsided.cutSense_eq hspans.at_not_mem, List.isEmpty_iff,
    if_neg hspans.ne_nil, hspans.readBounds, pure, Except.pure]
  by_cases hlt : y.lt x = true
  · simp only [if_pos hlt]
  · simp only [if_neg hlt]

theorem read_between (hx : readBound a = .ok x) (hy : readBound b = .ok y)
    (hsided : Sided t sense (a ++ ':' :: b)) :
    AlertRange.read t =
      if y.lt x then .error .reversedBounds else .ok ⟨[], t, ⟨sense, x, y⟩⟩ := by
  have hspans : Spans .between (a ++ ':' :: b) x y := by
    simpa [colons] using
      Spans.between 0 0 0 (isBound_of_readBound hx) (isBound_of_readBound hy)
  exact read_of_spans hsided hspans

/-- **Rounding neither reverses nor refuses a range.** Take two decimals that are accepted as
bounds, whatever their digits and exponents, and the range between them, for either side. If they
are in order, the range is read, with both bounds as they are read alone. If it is refused, it is
refused as reversed and they are not in order. If it is read although they are not in order, both
are the same number. And a decimal that is not below zero is a range by itself. -/
theorem read_of_isDecimal (ha : a.IsDecimal negative p) (hb : b.IsDecimal negative' q)
    (hx : readBound a = .ok x) (hy : readBound b = .ok y) :
    (∀ t sense, Sided t sense (a ++ ':' :: b) →
      (p ≤ q → AlertRange.read t = .ok ⟨[], t, ⟨sense, x, y⟩⟩ ∧ x.le y = true) ∧
      (∀ e, AlertRange.read t = .error e → e = .reversedBounds ∧ q < p) ∧
      (∀ range, AlertRange.read t = .ok range → q < p →
        range = ⟨[], t, ⟨sense, x, y⟩⟩ ∧ x.le y = true ∧ y.le x = true)) ∧
    (0 ≤ q → AlertRange.read b = .ok ⟨[], b, ⟨.outside, .zero false, y⟩⟩ ∧
      (Binary64.zero false).le y = true) := by
  have horder : x.le y = !y.lt x := Binary64.le_eq_not_lt (ha.ne_nan hx) (hb.ne_nan hy)
  have hreversed : y.lt x = true → q < p := fun hlt => not_le.1 fun hle => by
    have hxy := ha.le_of_le hb hx hy hle
    rw [horder, hlt] at hxy
    cases hxy
  refine ⟨fun t sense hsided => ?_, fun hq => ?_⟩
  · rw [read_between hx hy hsided]
    by_cases hlt : y.lt x = true
    · have hqp := hreversed hlt
      rw [if_pos hlt]
      refine ⟨fun hle => absurd hqp (not_lt.2 hle), ?_, ?_⟩
      · rintro e ⟨⟩
        exact ⟨rfl, hqp⟩
      · rintro range ⟨⟩
    · have hxy : x.le y = true := by
        rw [horder, Bool.eq_false_iff.2 hlt]
        rfl
      rw [if_neg hlt]
      refine ⟨fun _ => ⟨rfl, hxy⟩, ?_, ?_⟩
      · rintro e ⟨⟩
      · rintro range ⟨⟩ hqp
        exact ⟨rfl, hxy, hb.le_of_le ha hy hx hqp.le⟩
  · have hzero := hb.zero_le hy hq
    have hlt : y.lt (.zero false) = false := by
      rwa [Binary64.le_eq_not_lt (by simp [Binary64.zero]) (hb.ne_nan hy),
        Bool.not_eq_true'] at hzero
    have hread := read_of_spans (.outside b) (.upper (isBound_of_readBound hy))
    rw [hlt, if_neg Bool.false_ne_true] at hread
    exact ⟨hread, hzero⟩

/-- Two decimals around zero that are written in the wrong order. Both are rounded to zero, each
with its sign, and the range between them is read. -/
theorem read_of_isDecimal_two_zeros :
    let a := "1e-400".toList
    let b := "-1e-400".toList
    let range : AlertRange := ⟨[], a ++ ':' :: b, ⟨.outside, .zero false, .zero true⟩⟩
    Text.IsDecimal a false (10 ^ (-400 : ℤ)) ∧ Text.IsDecimal b true (-10 ^ (-400 : ℤ)) ∧
      readBound a = .ok (.zero false) ∧ readBound b = .ok (.zero true) ∧
      AlertRange.read (a ++ ':' :: b) = .ok range ∧
      range.zone.lower.le range.zone.upper = true ∧
      range.zone.upper.le range.zone.lower = true := by
  intro a b range
  have ha : Text.IsDecimal a false (10 ^ (-400 : ℤ)) :=
    Text.isDecimal_iff.2 ⟨1, -400, by decide +kernel, by simp [signedRat]⟩
  have hb : Text.IsDecimal b true (-10 ^ (-400 : ℤ)) :=
    Text.isDecimal_iff.2 ⟨1, -400, by decide +kernel, by simp [signedRat]⟩
  have hx : readBound a = .ok (.zero false) := by decide +kernel
  have hy : readBound b = .ok (.zero true) := by decide +kernel
  have hread : AlertRange.read (a ++ ':' :: b) = .ok range := by decide +kernel
  have hlt : (-10 ^ (-400 : ℤ) : ℚ) < 10 ^ (-400 : ℤ) := neg_lt_self (by positivity)
  obtain ⟨-, hle, hge⟩ :=
    ((read_of_isDecimal ha hb hx hy).1 _ _ (.outside _)).2.2 range hread hlt
  exact ⟨ha, hb, hx, hy, hread, hle, hge⟩

end AlertRange

end ThresholdCheck
