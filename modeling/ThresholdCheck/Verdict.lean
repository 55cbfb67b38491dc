import ThresholdCheck.Json.Printer
import ThresholdCheck.PerfData
import ThresholdCheck.Range.List
import ThresholdCheck.Severity

/-!
# Evaluating a value

A value is held against the range that each list has for its metric. The critical range comes
first; the definitions of both ranges are reported, whether they alert or not.

## Main definitions

* `Verdict` — a severity with the definitions that were looked at
* `Verdict.of` — the verdict on a value
* `Verdict.toJson` — the verdict as a JSON value
* `Verdict.annotate` — performance data with the reported definitions in its slots
* `PerfData.evaluate` — an item held against two lists under its label

## Main results

* `Verdict.severity_of_ne_unknown` — a value that is looked at has a known severity
-/

namespace ThresholdCheck

/-- The outcome for one value. -/
structure Verdict where
  severity : Severity
  /-- Definition of the warning range of the metric. -/
  warning : Option Text
  /-- Definition of the critical range of the metric. -/
  critical : Option Text
deriving DecidableEq

namespace Verdict

/-- Whether there is a range and the value alerts on it. -/
def alertsOn (range : Option AlertRange) (value : Binary64) : Bool :=
  range.any fun r => r.alerts value

/-- The verdict on a value of a metric. A metric without a range is not checked. -/
def of (warning critical : RangeList) (value : Binary64) (metric : Text) : Verdict :=
  let warningRange := warning.select metric
  let criticalRange := critical.select metric
  { severity :=
      if alertsOn criticalRange value then .critical
      else if alertsOn warningRange value then .warning
      else .ok
    warning := warningRange.map AlertRange.definition
    critical := criticalRange.map AlertRange.definition }

/-- The verdict as a JSON value. -/
def toJson (verdict : Verdict) : Json :=
  .object
    [ ("severity".toList, .string verdict.severity.label),
      ("warning".toList, .optional verdict.warning),
      ("critical".toList, .optional verdict.critical) ]

/-- The item with the reported definitions in its slots; a slot without one stays as it is. -/
def annotate (verdict : Verdict) (item : PerfData) : PerfData :=
  { item with
    warning := verdict.warning <|> item.warning
    critical := verdict.critical <|> item.critical }

theorem severity_of_ne_unknown (warning critical : RangeList) (value : Binary64) (metric : Text) :
    (of warning critical value metric).severity ≠ .unknown := by
  rw [of]
  simp only
  split
  · simp
  · split <;> simp

end Verdict

/-- The severity of an item whose label is its metric, and the item with its definitions. -/
def PerfData.evaluate (warning critical : RangeList) (item : PerfData) : Severity × PerfData :=
  let verdict := Verdict.of warning critical item.value item.label
  (verdict.severity, verdict.annotate item)

end ThresholdCheck
