import ThresholdCheck.Verdict

/-!
# Selected ranges and verdicts

A metric is held against the first range of each list that is for it. Both what a verdict is and
what it reports are told by these two ranges, and by nothing else of the lists.

## Main definitions

* `RangeList.IsFirst` — the first range of a metric
* `RangeList.AlertsAt` — a value of a metric alerts on that range
* `RangeList.Slot` — the definition that is reported for a metric

## Main results

* `RangeList.select_eq_some_iff`, `RangeList.select_eq_none_iff` — what is selected
* `Verdict.severity_of_eq_critical_iff`, `Verdict.severity_of_eq_warning_iff` — which verdict a
  value gets
-/

namespace ThresholdCheck

namespace RangeList

variable {list : RangeList} {metric : Text} {range : AlertRange} {value : Binary64}

/-! ### The first range of a metric -/

/-- The range is the first one of the list that is for the metric. -/
def IsFirst (list : RangeList) (metric : Text) (range : AlertRange) : Prop :=
  ∃ before after, list.ranges = before ++ range :: after ∧ range.metric = metric ∧
    ∀ other ∈ before, other.metric ≠ metric

/-- No range of the list is for the metric. -/
def IsSilent (list : RangeList) (metric : Text) : Prop :=
  ∀ range ∈ list.ranges, range.metric ≠ metric

theorem select_eq_some_iff : list.select metric = some range ↔ list.IsFirst metric range := by
  rw [select, List.find?_eq_some_iff_append]
  constructor
  · rintro ⟨hmetric, before, after, hlist, hbefore⟩
    exact ⟨before, after, hlist, by simpa using hmetric, by simpa using hbefore⟩
  · rintro ⟨before, after, hlist, hmetric, hbefore⟩
    exact ⟨by simpa using hmetric, before, after, hlist, by simpa using hbefore⟩

theorem select_eq_none_iff : list.select metric = none ↔ list.IsSilent metric := by
  simp [select, IsSilent]

/-! ### What follows from it -/

/-- The value alerts on the first range of the metric. -/
def AlertsAt (list : RangeList) (metric : Text) (value : Binary64) : Prop :=
  ∃ range, list.IsFirst metric range ∧ range.alerts value

theorem alertsOn_select_iff :
    Verdict.alertsOn (list.select metric) value ↔ list.AlertsAt metric value := by
  simp only [AlertsAt, ← select_eq_some_iff, Verdict.alertsOn, Option.any_eq_true]

/-- The definition of the first range of the metric, if there is one. -/
inductive Slot (list : RangeList) (metric : Text) : Option Text → Prop
  | definition {range : AlertRange} (h : list.IsFirst metric range) :
      Slot list metric (some range.definition)
  | empty (h : list.IsSilent metric) : Slot list metric none

theorem slot_select (list : RangeList) (metric : Text) :
    list.Slot metric ((list.select metric).map AlertRange.definition) := by
  rcases hselect : list.select metric with - | range
  · exact .empty (select_eq_none_iff.1 hselect)
  · exact .definition (select_eq_some_iff.1 hselect)

end RangeList

/-! ### Verdicts -/

namespace Verdict

variable {warning critical : RangeList} {value : Binary64} {metric : Text}

theorem severity_of_eq_critical_iff :
    (of warning critical value metric).severity = .critical ↔ critical.AlertsAt metric value := by
  rw [← RangeList.alertsOn_select_iff, of]
  simp only
  split
  · simp_all
  · split <;> simp_all

theorem severity_of_eq_warning_iff :
    (of warning critical value metric).severity = .warning ↔
      ¬ critical.AlertsAt metric value ∧ warning.AlertsAt metric value := by
  rw [← RangeList.alertsOn_select_iff, ← RangeList.alertsOn_select_iff, of]
  simp only
  split
  · simp_all
  · split <;> simp_all

end Verdict

end ThresholdCheck
