import ThresholdCheck.Text.Split

/-!
# Severities

The verdict of a check and the exit code that a monitoring system reads it from.

## Main definitions

* `Severity` — the four verdicts
* `Severity.label`, `Severity.exitCode` — how they are shown
* `Severity.combine`, `Severity.fold` — one verdict out of several

## Main results

* `Severity.combine_comm`, `Severity.combine_assoc`, `Severity.ok_combine` — combining is a
  commutative monoid
-/

namespace ThresholdCheck

/-- The verdict of a check. -/
inductive Severity where
  | ok
  | warning
  | critical
  | unknown
deriving DecidableEq, Inhabited

namespace Severity

/-- The name on the status line. -/
def label : Severity → Text
  | ok => "OK".toList
  | warning => "WARNING".toList
  | critical => "CRITICAL".toList
  | unknown => "UNKNOWN".toList

/-- The exit code that the monitoring system expects. -/
def exitCode : Severity → UInt8
  | ok => 0
  | warning => 1
  | critical => 2
  | unknown => 3

/-- One verdict out of two: critical over warning over unknown over ok. -/
def combine : Severity → Severity → Severity
  | ok, other => other
  | warning, critical => critical
  | warning, _ => warning
  | critical, _ => critical
  | unknown, warning => warning
  | unknown, critical => critical
  | unknown, _ => unknown

/-- One verdict out of any number, starting from ok. -/
def fold (severities : List Severity) : Severity := severities.foldl combine ok

theorem ok_combine (s : Severity) : combine ok s = s := rfl

theorem combine_ok (s : Severity) : combine s ok = s := by
  cases s <;> rfl

theorem combine_comm (s t : Severity) : combine s t = combine t s := by
  cases s <;> cases t <;> rfl

theorem combine_assoc (s t u : Severity) : combine (combine s t) u = combine s (combine t u) := by
  cases s <;> cases t <;> cases u <;> rfl

end Severity

end ThresholdCheck
