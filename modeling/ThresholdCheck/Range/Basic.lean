import ThresholdCheck.Binary64.Basic
import ThresholdCheck.Text.Split

/-!
# Alert ranges

A zone is a closed interval together with the side of it that raises an alert. An alert range is a
zone that belongs to a metric and remembers the definition it was written as.

## Main definitions

* `Sense` — the alerting side of an interval
* `Zone` — an interval with its alerting side
* `Zone.alerts` — whether a value raises an alert
* `AlertRange` — a zone with the metric it is for and the definition it comes from
* `AlertRange.text` — the range as it is written

## Main results

* `Zone.alerts_nan` — a NaN never alerts
-/

namespace ThresholdCheck

/-- The side of an interval that raises an alert. -/
inductive Sense where
  | outside
  | inside
deriving DecidableEq, Inhabited

/-- A closed interval with its alerting side. -/
structure Zone where
  sense : Sense
  lower : Binary64
  upper : Binary64
deriving DecidableEq

/-- Whether a value raises an alert. Both bounds belong to the interval, and a NaN is on neither
side. -/
def Zone.alerts (zone : Zone) (value : Binary64) : Bool :=
  match zone.sense with
  | .outside => value.lt zone.lower || zone.upper.lt value
  | .inside => zone.lower.le value && value.le zone.upper

theorem Zone.alerts_nan (zone : Zone) : zone.alerts .nan = false := by
  rw [Zone.alerts]
  split <;> simp [Binary64.lt_nan, Binary64.nan_lt, Binary64.le_nan]

/-- A zone with the metric it is for, empty for measurements without a label, and with its
definition. -/
structure AlertRange where
  metric : Text
  definition : Text
  zone : Zone
deriving DecidableEq

namespace AlertRange

/-- Whether a value raises an alert. -/
def alerts (range : AlertRange) (value : Binary64) : Bool := range.zone.alerts value

/-- The range as it is written: the definition, after the metric and a comma if there is one. -/
def text (range : AlertRange) : Text :=
  if range.metric.isEmpty then range.definition
  else range.metric ++ ',' :: range.definition

end AlertRange

end ThresholdCheck
