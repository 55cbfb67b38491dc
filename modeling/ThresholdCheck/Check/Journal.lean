import ThresholdCheck.Check.Outcome
import ThresholdCheck.Log.Event

/-!
# What a check logs

The events of a check follow from its settings in the order of its stages: a list that was read,
the whole configuration, each evaluation with an alert it raised, and the end.

## Main definitions

* `Config.journal` — the events of checking all measurements
* `Settings.journal` — the events of a whole check
-/

namespace ThresholdCheck

namespace Journal

/-- Where list reading is logged. -/
def listTarget : Text := "pluginkit_core::thresholds::parser".toList

/-- Where evaluations are logged. -/
def evaluationTarget : Text := "pluginkit_core::thresholds::evaluator".toList

/-- Where the configuration is logged. -/
def configTarget : Text := "pluginkit_check::config".toList

/-- Where the course of the check is logged. -/
def checkTarget : Text := "pluginkit_check::check".toList

/-- A list was read. -/
def listRead (definition : Text) (list : RangeList) : Log.Event where
  level := .debug
  target := listTarget
  message := "Parsed threshold list".toList
  fields :=
    [ ("definition".toList, Text.quoted definition),
      ("count".toList, Decimal.natural list.length) ]

/-- All settings were read. -/
def configRead (config : Config) : Log.Event where
  level := .debug
  target := configTarget
  message := "Loaded check configuration".toList
  fields :=
    [ ("warning".toList, Decimal.natural config.warning.length),
      ("critical".toList, Decimal.natural config.critical.length),
      ("measurements".toList, Decimal.natural config.measurements.length) ]

/-- A value was held against its ranges. -/
def evaluated (metric : Text) (value : Binary64) (severity : Severity) : Log.Event where
  level := .debug
  target := evaluationTarget
  message := "Evaluated value against thresholds".toList
  fields :=
    [ ("metric".toList, Text.quoted metric), ("value".toList, Log.number value),
      ("severity".toList, severity.label) ]

/-- A measurement raised an alert. -/
def exceeded (measurement : Measurement) (severity : Severity) : Log.Event where
  level := .info
  target := checkTarget
  message := "Threshold exceeded".toList
  fields :=
    [ ("label".toList, measurement.label), ("value".toList, Log.number measurement.value),
      ("severity".toList, severity.label) ]

/-- The check came to its end. -/
def completed (severity : Severity) : Log.Event where
  level := .debug
  target := checkTarget
  message := "Check complete".toList
  fields := [("severity".toList, severity.label)]

/-- The settings were refused. -/
def aborted (e : CheckError) : Log.Event where
  level := .debug
  target := checkTarget
  message := "Check aborted".toList
  fields := [("error".toList, e.message)]

end Journal

/-- The events of one measurement. -/
def Config.journalOf (config : Config) (measurement : Measurement) : List Log.Event :=
  let severity := (config.evaluate measurement).1
  Journal.evaluated measurement.label measurement.value severity ::
    if severity = .ok then [] else [Journal.exceeded measurement severity]

/-- The events of checking all measurements. -/
def Config.journal (config : Config) : List Log.Event :=
  config.measurements.flatMap config.journalOf ++ [Journal.completed config.run.severity]

namespace Settings

/-- The lists that are read before the first one that is refused. -/
def listsJournal (settings : Settings) : List Log.Event :=
  match RangeList.read settings.warning with
  | .error _ => []
  | .ok warning =>
    Journal.listRead settings.warning warning ::
      match RangeList.read settings.critical with
      | .error _ => []
      | .ok critical => [Journal.listRead settings.critical critical]

/-- The events of a whole check. -/
def journal (settings : Settings) : List Log.Event :=
  settings.listsJournal ++
    match Config.read settings with
    | .error e => [Journal.aborted e]
    | .ok config =>
      Journal.configRead config :: if config.dump then [] else config.journal

end Settings

end ThresholdCheck
