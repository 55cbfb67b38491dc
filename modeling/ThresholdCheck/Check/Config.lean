import ThresholdCheck.Measurement
import ThresholdCheck.Range.List

/-!
# What a check is asked to do

Settings are texts as the user gives them. A configuration holds what they say; everything is read
before any value is looked at, so that a malformed range fails the check.

## Main definitions

* `Settings` — the texts
* `CheckError` — why settings are refused
* `Config` — ranges and measurements, read
* `Config.read` — the configuration of settings

## Main results

* `CheckError.newline_not_mem_message` — every message is one line
-/

namespace ThresholdCheck

/-- The texts that a check is set up with. -/
structure Settings where
  warning : Text
  critical : Text
  uom : Text
  minimum : Option Text
  maximum : Option Text
  message : Text
  /-- Show the ranges instead of checking. -/
  dump : Bool
  measurements : List Text
deriving DecidableEq

/-- Why settings are refused. -/
inductive CheckError where
  | range (cause : RangeError)
  | invalidMeasurement (measurement : Text)
  | noMeasurement
deriving DecidableEq

/-- The wording of an error. -/
def CheckError.message : CheckError → Text
  | range cause => cause.message
  | invalidMeasurement measurement =>
    "invalid measurement ".toList ++ Text.quoted measurement ++
      ": expected [<label>=]<value>".toList
  | noMeasurement => "no measurement given".toList

/-- Every message is one line. -/
theorem CheckError.newline_not_mem_message (e : CheckError) : '\n' ∉ e.message := by
  cases e with
  | range cause => exact cause.newline_not_mem_message
  | invalidMeasurement measurement =>
    exact Text.newline_not_mem_around (by decide) (by decide) measurement
  | noMeasurement => decide

/-- What a check works with. -/
structure Config where
  warning : RangeList
  critical : RangeList
  measurements : List Measurement
  uom : Text
  minimum : Option Text
  maximum : Option Text
  message : Text
  dump : Bool
deriving DecidableEq

namespace Config

/-- A measurement of the settings. -/
def readMeasurement (t : Text) : Except CheckError Measurement :=
  match Measurement.read? t with
  | some measurement => .ok measurement
  | none => .error (.invalidMeasurement t)

/-- The configuration of settings, or the first thing wrong with them: in the warning ranges, the
critical ranges, then the measurements. Only a dump does without a measurement. -/
def read (settings : Settings) : Except CheckError Config := do
  let warning ← (RangeList.read settings.warning).mapError .range
  let critical ← (RangeList.read settings.critical).mapError .range
  let measurements ← settings.measurements.mapM readMeasurement
  if measurements.isEmpty && !settings.dump then .error .noMeasurement
  else
    return {
      warning
      critical
      measurements
      uom := settings.uom
      minimum := settings.minimum
      maximum := settings.maximum
      message := settings.message
      dump := settings.dump }

end Config

end ThresholdCheck
