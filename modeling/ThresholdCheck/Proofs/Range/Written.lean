import ThresholdCheck.Proofs.Range.Record
import ThresholdCheck.Proofs.Range.Refused

/-!
# Ranges as they are written

A range that was read from a text is written as this text. A record is less particular than a text:
it takes the metric as it comes, and a metric with a comma cannot be told from its definition any
more once it is written. So a range from a record can be read from its text exactly if no comma
stands in its metric.

## Main results

* `AlertRange.text_of_read` — what was read is written
* `AlertRange.metric_eq_nil_iff_of_read` — which texts give no metric
* `AlertRange.read_text_of_comma_not_mem`, `AlertRange.read_text_of_comma_mem` — reading what is
  written, for a metric without a comma and for one with it
* `AlertRange.read_text_of_decode` — reading what is written for the range of a record
-/

namespace ThresholdCheck

namespace AlertRange

variable {t : Text} {range : AlertRange}

/-! ### Ranges from texts -/

theorem text_of_read (h : AlertRange.read t = .ok range) : range.text = t :=
  (cutMetric_eq_ok (read_eq_ok_iff.1 h).1).1.symm

/-- A text without a comma, and no other, gives a range without a metric. -/
theorem metric_eq_nil_iff_of_read (h : AlertRange.read t = .ok range) :
    range.metric = [] ↔ ',' ∉ t := by
  obtain ⟨ht, -, hcomma⟩ := cutMetric_eq_ok (read_eq_ok_iff.1 h).1
  by_cases hmetric : range.metric = []
  · simp only [hmetric, List.isEmpty_nil, if_true] at ht
    simpa [hmetric, ht] using hcomma
  · rw [if_neg (mt List.isEmpty_iff.1 hmetric)] at ht
    rw [ht]
    simp [hmetric]

/-! ### Ranges with the zone of their definition -/

theorem read_text_of_comma_not_mem (hzone : Zone.read range.definition = .ok range.zone)
    (hcomma : ',' ∉ range.metric) : AlertRange.read range.text = .ok range := by
  have hdefinition : range.definition ≠ [] := by
    intro hempty
    rw [hempty] at hzone
    cases hzone
  have hnamed : Named range.text range.metric range.definition := by
    rw [text]
    split
    · rename_i hempty
      rw [List.isEmpty_iff.1 hempty]
      exact .bare _
    · rename_i hne
      exact .named _ (mt List.isEmpty_iff.2 hne) hcomma
  have hcut := hnamed.cutMetric_eq hdefinition (Zone.comma_not_mem_of_read hzone)
  exact read_eq_ok_iff.2 ⟨hcut, hzone⟩

/-- The error for a metric in which a comma stands: the reader takes what is before the first comma
for the metric and the rest for the definition. -/
def commaError (metric : Text) : RangeError :=
  if metric.head? = some ',' then .emptyMetric else .invalidMetric

/-- Written with a comma in its metric, a range is refused whatever its definition is. -/
theorem read_text_of_comma_mem (hcomma : ',' ∈ range.metric) :
    AlertRange.read range.text = .error (commaError range.metric) := by
  have hne : range.metric ≠ [] := List.ne_nil_of_mem hcomma
  rw [text, if_neg (mt List.isEmpty_iff.1 hne), read_eq_error_iff, commaError]
  refine .metric ?_
  split
  · rename_i hhead
    exact .empty (by rw [List.head?_append_of_ne_nil _ hne, hhead])
  · rename_i hhead
    -- the reader cuts at the first comma of the metric, and the one behind it is left over
    obtain ⟨before, after, hmetric, hfree⟩ := List.eq_append_cons_of_mem hcomma
    have hbefore : before ≠ [] := by
      rintro rfl
      exact hhead (by rw [hmetric]; rfl)
    have hcut : range.metric ++ ',' :: range.definition =
        before ++ ',' :: (after ++ ',' :: range.definition) := by
      rw [hmetric, List.append_assoc, List.cons_append]
    exact .invalid hcut hbefore hfree (.inr (by simp))

/-! ### Ranges from records -/

/-- **The range of a record can be read from its text exactly if its metric holds no comma.** Such a
text is refused otherwise, although a record may name any metric. -/
theorem read_text_of_decode (h : decode t = .ok range) :
    (AlertRange.read range.text = .ok range ↔ ',' ∉ range.metric) ∧
      (',' ∈ range.metric → AlertRange.read range.text = .error (commaError range.metric)) ∧
      ∀ metric, ∃ t', decode t' = .ok { range with metric } := by
  have hzone := zone_read_of_decode h
  refine ⟨⟨fun hread hcomma => ?_, read_text_of_comma_not_mem hzone⟩, read_text_of_comma_mem, ?_⟩
  · rw [read_text_of_comma_mem hcomma] at hread
    cases hread
  · intro metric
    let other : AlertRange := { range with metric }
    have hother : Zone.read other.definition = .ok other.zone := hzone
    exact ⟨_, decode_compact_toJson_of_zone_read hother⟩

/-- A range for every value, of a metric with blanks, colons and an at sign in its name: what its
record gives is read again from its text. -/
theorem read_text_of_decode_odd_metric :
    let range : AlertRange := ⟨"@a: b".toList, "@~:inf".toList, ⟨.inside, .negInf, .posInf⟩⟩
    decode range.toJson.compact = .ok range ∧ ',' ∉ range.metric ∧
      AlertRange.read range.text = .ok range := by
  intro range
  have hzone : Zone.read range.definition = .ok range.zone := by decide +kernel
  have hdecode := decode_compact_toJson_of_zone_read hzone
  have hcomma : ',' ∉ range.metric := by decide
  exact ⟨hdecode, hcomma, (read_text_of_decode hdecode).1.2 hcomma⟩

/-- A record with a comma in its metric gives a range, but its text is not one. -/
theorem read_text_comma_metric :
    let range : AlertRange := ⟨"a,b".toList, "~:".toList, ⟨.outside, .negInf, .posInf⟩⟩
    decode range.toJson.compact = .ok range ∧ range.text = "a,b,~:".toList ∧
      AlertRange.read range.text = .error .invalidMetric := by
  intro range
  have hzone : Zone.read range.definition = .ok range.zone := by decide +kernel
  exact ⟨decode_compact_toJson_of_zone_read hzone, rfl, by decide +kernel⟩

end AlertRange

end ThresholdCheck
