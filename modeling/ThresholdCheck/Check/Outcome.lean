import ThresholdCheck.Check.Config
import ThresholdCheck.Range.Record
import ThresholdCheck.StatusLine
import ThresholdCheck.Verdict

/-!
# Running a check

Measurements are taken one after the other. Each is held against the ranges of its label; its
severity is combined with what came before, and the line shows one item of performance data for it.

## Main definitions

* `Outcome` — a severity and a line
* `Tally`, `Config.step` — what is added up, one measurement after the other
* `Config.run` — the outcome of checking all measurements
* `Config.dumpText` — the ranges as JSON
* `Settings.outcome` — the outcome for settings, refused ones included
-/

namespace ThresholdCheck

/-- The verdict of a check with the line to print. -/
structure Outcome where
  severity : Severity
  line : Text
deriving DecidableEq

/-- What the measurements so far come to. -/
structure Tally where
  severity : Severity
  /-- The performance data, in order. -/
  items : List PerfData
deriving DecidableEq

/-- Nothing was measured. -/
def Tally.start : Tally := ⟨.ok, []⟩

/-- The outcome of a check that could not run. -/
def Outcome.unknown (message : Text) : Outcome :=
  ⟨.unknown, StatusLine.render .unknown message []⟩

namespace Config

/-- The item of a measurement before it is evaluated. -/
def item (config : Config) (measurement : Measurement) : PerfData :=
  { PerfData.bare measurement.label measurement.value config.uom with
    minimum := config.minimum
    maximum := config.maximum }

/-- The severity of a measurement, and its item. -/
def evaluate (config : Config) (measurement : Measurement) : Severity × PerfData :=
  (config.item measurement).evaluate config.warning config.critical

/-- One more measurement. -/
def step (config : Config) (tally : Tally) (measurement : Measurement) : Tally :=
  let (severity, item) := config.evaluate measurement
  ⟨tally.severity.combine severity, tally.items ++ [item]⟩

/-- What all measurements come to. -/
def tally (config : Config) : Tally := config.measurements.foldl config.step .start

/-- The outcome of checking all measurements. -/
def run (config : Config) : Outcome :=
  ⟨config.tally.severity,
    StatusLine.render config.tally.severity config.message config.tally.items⟩

/-- The ranges as JSON. -/
def dumpJson (config : Config) : Json :=
  .object (Json.sortFields
    [("warning".toList, config.warning.dump), ("critical".toList, config.critical.dump)])

/-- The ranges as JSON text. -/
def dumpText (config : Config) : Text := config.dumpJson.pretty

/-- What the check reports: the ranges if that is asked for, else the result of checking. -/
def outcome (config : Config) : Outcome :=
  if config.dump then ⟨.ok, config.dumpText⟩ else config.run

end Config

/-- The outcome for settings: unknown if they are refused. -/
def Settings.outcome (settings : Settings) : Outcome :=
  match Config.read settings with
  | .error e => .unknown e.message
  | .ok config => config.outcome

end ThresholdCheck
