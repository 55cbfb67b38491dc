import ThresholdCheck.Proofs.Range.Lists

/-!
# Accepted ranges and the order of their bounds

A range is refused if its lower bound lies above its upper one. That is not the same as accepting it
if the bounds are in order: nothing lies above or below a NaN, and a NaN can be spelled in a
definition. So the bounds of an accepted range are in order exactly if neither of them is spelled
NaN, whichever way the range came in.

## Main definitions

* `AlertRange.Accepted` — the ranges that are read from texts, lists and records
* `AlertRange.boundTexts` — the bounds as they stand in the definition

## Main results

* `IsBound.eq_nan_iff` — which bounds are NaN
* `AlertRange.Accepted.zone_read` — an accepted range has the zone of its definition
* `Zone.le_iff_of_read` — bounds that are not NaN are in order
* `AlertRange.Accepted.le_iff_not_isNanName` — when the bounds of an accepted range are in order
-/

namespace ThresholdCheck

/-! ### NaN as a bound -/

/-- A bound is NaN if it is spelled so. -/
theorem readBound_eq_nan_iff {t : Text} : readBound t = .ok .nan ↔ t.IsNanName := by
  rw [← Numeral.read?_eq_nan_iff]
  rw [readBound]
  split
  · rename_i hempty
    rw [List.isEmpty_iff.1 hempty]
    decide
  · split
    · rename_i htilde
      rw [htilde]
      decide
    · split
      · rename_i hread
        simp [hread]
      · rename_i negative coefficient scale hread
        have := Binary64.nearestDecimal_ne_nan negative coefficient scale
        simp only [hread]
        split <;> simp_all
      · rename_i numeral hdecimal hread
        rw [hread]
        cases numeral with
        | nan => simp [Numeral.value]
        | infinity negative => simp [Numeral.value]
        | decimal negative coefficient scale => exact absurd rfl (hdecimal _ _ _)

theorem IsBound.eq_nan_iff {t : Text} {x : Binary64} (h : IsBound t x) :
    x = .nan ↔ t.IsNanName := by
  rw [← readBound_eq_nan_iff, h.read, Except.ok.injEq]

/-- An end of the interval is NaN if a bound of the text is. -/
theorem Spans.eq_nan_or_iff {form : BoundsForm} {t : Text} {lower upper : Binary64}
    (h : Spans form t lower upper) :
    lower = .nan ∨ upper = .nan ↔ ∃ bound ∈ Text.segments ':' t, bound.IsNanName := by
  cases h with
  | upper hx => simp [hx.segments, hx.eq_nan_iff, Binary64.zero]
  | upTo n hx => simp [colons, hx.segments, hx.eq_nan_iff]
  | onward n k hx => simp [colons, hx.segments, hx.eq_nan_iff]
  | between n m k hx hy =>
    rw [segments_between n m k hx hy]
    simp [hx.eq_nan_iff, hy.eq_nan_iff]

/-- The bounds of a zone that was read are in order, unless one of them is NaN. -/
theorem Zone.le_iff_of_read {definition : Text} {zone : Zone}
    (h : Zone.read definition = .ok zone) :
    zone.lower.le zone.upper ↔ zone.lower ≠ .nan ∧ zone.upper ≠ .nan := by
  obtain ⟨_, _, -, -, hlt⟩ := Zone.read_eq_ok_iff.1 h
  constructor
  · intro hle
    refine ⟨fun hlower => ?_, fun hupper => ?_⟩
    · rw [hlower, Binary64.nan_le] at hle
      cases hle
    · rw [hupper, Binary64.le_nan] at hle
      cases hle
  · rintro ⟨hlower, hupper⟩
    rw [Binary64.le_eq_not_lt hlower hupper, hlt]
    rfl

/-! ### Ways in -/

namespace AlertRange

/-- The ranges that a text, a list of ranges or a record gives. -/
inductive Accepted (range : AlertRange) : Prop
  | read {t : Text} (h : AlertRange.read t = .ok range)
  | listed {t : Text} {list : RangeList} (h : RangeList.read t = .ok list)
      (hmem : range ∈ list.ranges)
  | decoded {t : Text} (h : decode t = .ok range)

/-- However it came in, an accepted range has the zone of its definition. -/
theorem Accepted.zone_read {range : AlertRange} (h : Accepted range) :
    Zone.read range.definition = .ok range.zone := by
  cases h with
  | read h => exact zone_read_of_read h
  | listed h hmem =>
    obtain ⟨piece, -, hread⟩ := RangeList.exists_read_of_mem h hmem
    exact zone_read_of_read hread
  | decoded h => exact zone_read_of_decode h

/-- The bounds that are written in the definition. -/
def boundTexts (range : AlertRange) : List Text := Text.segments ':' (cutSense range.definition).2

theorem Accepted.eq_nan_or_iff {range : AlertRange} (h : Accepted range) :
    range.zone.lower = .nan ∨ range.zone.upper = .nan ↔
      ∃ bound ∈ range.boundTexts, bound.IsNanName := by
  obtain ⟨bounds, form, hsided, hspans, -⟩ := Zone.read_eq_ok_iff.1 h.zone_read
  rw [boundTexts, hsided.cutSense_eq hspans.at_not_mem]
  exact hspans.eq_nan_or_iff

/-- **The bounds of an accepted range are in order exactly if neither is a NaN**, that is, if none
of the bounds in its definition is spelled so. -/
theorem Accepted.le_iff_not_isNanName {range : AlertRange} (h : Accepted range) :
    (range.zone.lower.le range.zone.upper ↔
        range.zone.lower ≠ .nan ∧ range.zone.upper ≠ .nan) ∧
      (range.zone.lower.le range.zone.upper ↔
        ∀ bound ∈ range.boundTexts, ¬ bound.IsNanName) := by
  have hle := Zone.le_iff_of_read h.zone_read
  refine ⟨hle, hle.trans ?_⟩
  rw [← not_or, h.eq_nan_or_iff]
  simp

/-- The whole line, as a range of a metric: its bounds are in order. -/
theorem accepted_whole_line :
    Accepted ⟨"load".toList, "@~:inf".toList, ⟨.inside, .negInf, .posInf⟩⟩ ∧
      Binary64.negInf.le .posInf = true :=
  have h : Accepted ⟨"load".toList, "@~:inf".toList, ⟨.inside, .negInf, .posInf⟩⟩ :=
    .read (t := "load,@~:inf".toList) (by decide +kernel)
  ⟨h, h.le_iff_not_isNanName.2.2 (by decide)⟩

/-- A lone NaN is a range on every way in, and its bounds are not in order. -/
theorem accepted_nan :
    AlertRange.read "nan".toList = .ok ⟨[], "nan".toList, ⟨.outside, .zero false, .nan⟩⟩ ∧
      RangeList.read "nan".toList = .ok ⟨[⟨[], "nan".toList, ⟨.outside, .zero false, .nan⟩⟩]⟩ ∧
      decode (AlertRange.toJson ⟨[], "nan".toList, ⟨.outside, .zero false, .nan⟩⟩).compact =
        .ok ⟨[], "nan".toList, ⟨.outside, .zero false, .nan⟩⟩ ∧
      (Binary64.zero false).le .nan = false := by
  have hread : AlertRange.read "nan".toList =
      .ok ⟨[], "nan".toList, ⟨.outside, .zero false, .nan⟩⟩ := by decide +kernel
  refine ⟨hread, by decide +kernel, ?_, Binary64.le_nan _⟩
  exact decode_compact_toJson_of_zone_read (zone_read_of_read hread)

end AlertRange

end ThresholdCheck
