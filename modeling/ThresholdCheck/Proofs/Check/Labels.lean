import ThresholdCheck.Measurement
import ThresholdCheck.Proofs.Range.Lists
import ThresholdCheck.Proofs.Text.Trim
import ThresholdCheck.Proofs.Verdict

/-!
# Labels that select a range

Options and measurements are read apart from each other, and meet in a name: the label of a
measurement selects the range whose metric is the same. The two readers do not treat a name alike.
A metric is taken as it stands in the option, and the white space around a label is dropped. So the
metric of a range, written before the equals sign, selects this range exactly if no white space
stands at its ends. If some does, no measurement at all selects the range.

## Main results

* `Measurement.read?_append`, `Measurement.tight_label` — the label of a measurement
* `RangeList.select_trim_iff`, `RangeList.exists_label_iff` — the ranges that labels select
* `RangeList.label_selects_iff_tight` — the same for the texts of an option and of a measurement
-/

namespace ThresholdCheck

namespace Measurement

/-! ### Labels -/

/-- A number that is a measurement of its own is one with any label before it, which loses the white
space around it. -/
theorem read?_append {label number : Text} {measurement : Measurement} (hfree : '=' ∉ number)
    (h : read? number = some measurement) :
    read? (label ++ '=' :: number) = some ⟨Text.trim label, measurement.value⟩ := by
  simp only [read?, cut_of_not_mem hfree, Option.map_eq_some_iff] at h
  obtain ⟨value, hvalue, rfl⟩ := h
  simp [read?, cut_append hfree, hvalue]

theorem tight_label {t : Text} {measurement : Measurement} (h : read? t = some measurement) :
    measurement.label.Tight := by
  obtain ⟨value, -, rfl⟩ := Option.map_eq_some_iff.1 h
  exact Text.tight_trim _

end Measurement

namespace RangeList

/-! ### Ranges that labels select -/

variable {t number : Text} {list : RangeList} {range : AlertRange} {measurement : Measurement}

theorem select_trim_iff (hfirst : list.IsFirst range.metric range) :
    list.select (Text.trim range.metric) = some range ↔ range.metric.Tight := by
  rw [← Text.trim_eq_self_iff]
  constructor
  · exact fun hselect => (metric_of_select hselect).symm
  · intro htrim
    rw [htrim]
    exact select_eq_some_iff.2 hfirst

/-- A range is within reach of measurements if its metric has no white space at its ends. -/
theorem exists_label_iff (hfirst : list.IsFirst range.metric range) :
    (∃ t m, Measurement.read? t = some m ∧ list.select m.label = some range) ↔
      range.metric.Tight := by
  constructor
  · rintro ⟨t, m, hread, hselect⟩
    rw [metric_of_select hselect]
    exact Measurement.tight_label hread
  · intro htight
    have hzero : Measurement.read? ['0'] = some ⟨[], .zero false⟩ := by decide +kernel
    exact ⟨range.metric ++ '=' :: ['0'], _, Measurement.read?_append (by decide) hzero,
      (select_trim_iff hfirst).2 htight⟩

/-- **A metric selects its range as a label exactly if no white space stands at its ends.** The
metric stands in the option to the letter; written before a number it is always a measurement. If
its ends are free of white space the definition of the range is reported, from either list. If they
are not, no measurement selects the range. -/
theorem label_selects_iff_tight (hlist : RangeList.read t = .ok list)
    (hfirst : list.IsFirst range.metric range) (hfree : '=' ∉ number)
    (hnumber : Measurement.read? number = some measurement) :
    range.text ∈ Text.segments ';' t ∧
    (∃ label, label.Tight ∧ Text.Pads label range.metric ∧
      Measurement.read? (range.metric ++ '=' :: number) = some ⟨label, measurement.value⟩ ∧
      (list.select label = some range ↔ range.metric.Tight) ∧
      (range.metric.Tight → ∀ other,
        (Verdict.of list other measurement.value label).warning = some range.definition ∧
          (Verdict.of other list measurement.value label).critical = some range.definition)) ∧
    ((∃ t m, Measurement.read? t = some m ∧ list.select m.label = some range) ↔
      range.metric.Tight) := by
  have hmem : range ∈ list.ranges := select_mem (select_eq_some_iff.2 hfirst)
  obtain ⟨htight, hpads⟩ := Text.trim_eq_iff.1 (rfl : Text.trim range.metric = _)
  refine ⟨map_text_of_read hlist ▸ List.mem_map_of_mem hmem,
    ⟨Text.trim range.metric, htight, hpads, Measurement.read?_append hfree hnumber,
      select_trim_iff hfirst, fun hmetric other => ?_⟩, exists_label_iff hfirst⟩
  have hselect := (select_trim_iff hfirst).2 hmetric
  simp [Verdict.of, hselect]

/-- A metric with an equals sign and a blank in it selects its range, the first of two. -/
theorem label_selects_odd_metric :
    let range : AlertRange := ⟨"a =b".toList, "@~:".toList, ⟨.inside, .negInf, .posInf⟩⟩
    let other : AlertRange := ⟨"a =b".toList, "~:".toList, ⟨.outside, .negInf, .posInf⟩⟩
    RangeList.read "a =b,@~:;a =b,~:".toList = .ok ⟨[range, other]⟩ ∧ range.metric.Tight ∧
      Measurement.read? " 0".toList = some ⟨[], .zero false⟩ ∧
      RangeList.select ⟨[range, other]⟩ "a =b".toList = some range := by
  intro range other
  have hlist : RangeList.read "a =b,@~:;a =b,~:".toList = .ok ⟨[range, other]⟩ := by
    decide +kernel
  have hfirst : RangeList.IsFirst ⟨[range, other]⟩ range.metric range :=
    ⟨[], [other], rfl, rfl, by simp⟩
  have hnumber : Measurement.read? " 0".toList = some ⟨[], .zero false⟩ := by decide +kernel
  have htight : range.metric.Tight := by decide
  obtain ⟨-, ⟨label, hlabel, hpads, -, hselect, -⟩, -⟩ :=
    label_selects_iff_tight hlist hfirst (by decide) hnumber
  have hsame : label = "a =b".toList :=
    (Text.trim_eq_iff.2 ⟨hlabel, hpads⟩).symm.trans (Text.trim_eq_self_iff.2 htight)
  exact ⟨hlist, htight, hnumber, hsame ▸ hselect.2 htight⟩

/-- A blank before the metric: the range, which is for every value, is not looked at for the metric
as it is written. -/
theorem label_padded_metric :
    let range : AlertRange := ⟨" load".toList, "@~:".toList, ⟨.inside, .negInf, .posInf⟩⟩
    RangeList.read " load,@~:".toList = .ok ⟨[range]⟩ ∧
      RangeList.IsFirst ⟨[range]⟩ range.metric range ∧
      Measurement.read? "0".toList = some ⟨[], .zero false⟩ ∧
      Measurement.read? (range.metric ++ "=0".toList) = some ⟨"load".toList, .zero false⟩ ∧
      RangeList.select ⟨[range]⟩ "load".toList = none ∧
      Verdict.of ⟨[range]⟩ ⟨[]⟩ (.zero false) "load".toList = ⟨.ok, none, none⟩ ∧
      Verdict.of ⟨[range]⟩ ⟨[]⟩ (.zero false) range.metric =
        ⟨.warning, some "@~:".toList, none⟩ := by
  intro range
  exact ⟨by decide +kernel, ⟨[], [], rfl, rfl, by simp⟩, by decide +kernel, by decide +kernel,
    by decide, by decide, by decide +kernel⟩

end RangeList

end ThresholdCheck
