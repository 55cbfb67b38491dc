import ThresholdCheck.Check.Outcome
import ThresholdCheck.Proofs.Decimal.Faithful
import ThresholdCheck.Proofs.Except
import ThresholdCheck.Proofs.StatusLine
import ThresholdCheck.Proofs.Verdict

/-!
# Whole runs

A run takes the measurements one after the other and adds up a tally. The invariant is that the
tally holds the fold of the severities so far and one item for each measurement so far, the same
item that the measurement has alone. The severity of a run then depends on which verdicts occur
and not on their order, and no item depends on another measurement. The line is the name of the
severity, the message, and behind a bar the texts of the items.

## Main definitions

* `Config.IsItem` — the item of one measurement
* `Config.Shows` — the text of the item of one measurement
* `Config.SomeAlerts` — some measurement alerts on the range that a list has for it

## Main results

* `Config.step_eq`, `Config.foldl_step` — one step, and a whole run
* `Config.run_severity_eq_critical_iff`, `Config.run_severity_eq_warning_iff`,
  `Config.run_severity_ne_unknown` — the severity of a run
* `Config.forall₂_isItem`, `Config.line_run` — the items of a run, and its line
* `Config.run_reports` — all of it
-/

namespace ThresholdCheck

namespace Config

variable {config : Config}

/-! ### Single measurements -/

theorem evaluate_eq_critical_iff {measurement : Measurement} :
    (config.evaluate measurement).1 = .critical ↔
      config.critical.AlertsAt measurement.label measurement.value :=
  Verdict.severity_of_eq_critical_iff

theorem evaluate_eq_warning_iff {measurement : Measurement} :
    (config.evaluate measurement).1 = .warning ↔
      ¬ config.critical.AlertsAt measurement.label measurement.value ∧
        config.warning.AlertsAt measurement.label measurement.value :=
  Verdict.severity_of_eq_warning_iff

/-- The item is that of the measurement: what was measured, the settings, and the definitions of the
first ranges of its label. -/
structure IsItem (config : Config) (measurement : Measurement) (item : PerfData) : Prop where
  label : item.label = measurement.label
  value : item.value = measurement.value
  uom : item.uom = config.uom
  minimum : item.minimum = config.minimum
  maximum : item.maximum = config.maximum
  warning : config.warning.Slot measurement.label item.warning
  critical : config.critical.Slot measurement.label item.critical

theorem isItem_evaluate (config : Config) (measurement : Measurement) :
    config.IsItem measurement (config.evaluate measurement).2 := by
  have hslots : (config.evaluate measurement).2.warning =
        (config.warning.select measurement.label).map AlertRange.definition ∧
      (config.evaluate measurement).2.critical =
        (config.critical.select measurement.label).map AlertRange.definition := by
    simp [evaluate, PerfData.evaluate, Verdict.annotate, Verdict.of, item, PerfData.bare]
  refine ⟨rfl, rfl, rfl, rfl, rfl, ?_, ?_⟩
  · rw [hslots.1]
    exact config.warning.slot_select measurement.label
  · rw [hslots.2]
    exact config.critical.slot_select measurement.label

/-- The text of a measurement's item: the label in quotes, the value with the unit, and then the
definitions of the first ranges of the label and the limits, each behind a semicolon. What is not
there leaves its place empty. -/
def Shows (config : Config) (measurement : Measurement) (t : Text) : Prop :=
  ∃ value warning critical, measurement.value.ShownAs value ∧
    config.warning.Slot measurement.label warning ∧
    config.critical.Slot measurement.label critical ∧
    t = '\'' :: measurement.label ++ "'=".toList ++ value ++ config.uom ++
      ';' :: warning.getD [] ++ ';' :: critical.getD [] ++
      ';' :: config.minimum.getD [] ++ ';' :: config.maximum.getD []

theorem IsItem.shows {measurement : Measurement} {item : PerfData}
    (h : config.IsItem measurement item) : config.Shows measurement item.text := by
  refine ⟨_, _, _, Binary64.shownAs_valueText _, h.warning, h.critical, ?_⟩
  rw [PerfData.text, h.label, h.value, h.uom, h.minimum, h.maximum]
  rfl

/-! ### Steps -/

/-- One step combines the severity of the measurement and adds its item. -/
theorem step_eq (config : Config) (tally : Tally) (measurement : Measurement) :
    config.step tally measurement =
      ⟨tally.severity.combine (config.evaluate measurement).1,
        tally.items ++ [(config.evaluate measurement).2]⟩ := rfl

/-- Whatever was added up before, a run adds what each measurement comes to alone. -/
theorem foldl_step (config : Config) (measurements : List Measurement) (tally : Tally) :
    measurements.foldl config.step tally =
      ⟨tally.severity.combine (Severity.fold (measurements.map fun m => (config.evaluate m).1)),
        tally.items ++ measurements.map fun m => (config.evaluate m).2⟩ := by
  induction measurements generalizing tally with
  | nil => simp [Severity.fold, Severity.combine_ok]
  | cons m measurements ih =>
    rw [List.foldl_cons, ih, step_eq, List.map_cons, List.map_cons, Severity.fold_cons,
      ← Severity.combine_assoc, List.append_assoc]
    rfl

theorem tally_eq (config : Config) :
    config.tally =
      ⟨Severity.fold (config.measurements.map fun m => (config.evaluate m).1),
        config.measurements.map fun m => (config.evaluate m).2⟩ := by
  rw [tally, foldl_step]
  rfl

theorem run_severity_eq_fold (config : Config) :
    config.run.severity =
      Severity.fold (config.measurements.map fun m => (config.evaluate m).1) := by
  rw [run, tally_eq]

/-! ### The severity of a run -/

/-- Some measurement alerts on the range that a list has for its label. -/
def SomeAlerts (config : Config) (list : RangeList) : Prop :=
  ∃ m ∈ config.measurements, list.AlertsAt m.label m.value

theorem run_severity_eq_critical_iff :
    config.run.severity = .critical ↔ config.SomeAlerts config.critical := by
  simp only [run_severity_eq_fold, Severity.fold_eq_critical_iff, List.mem_map, SomeAlerts,
    evaluate_eq_critical_iff]

theorem run_severity_eq_warning_iff :
    config.run.severity = .warning ↔
      ¬ config.SomeAlerts config.critical ∧ config.SomeAlerts config.warning := by
  rw [run_severity_eq_fold, Severity.fold_eq_warning_iff, ← Severity.fold_eq_critical_iff,
    ← run_severity_eq_fold, run_severity_eq_critical_iff]
  refine and_congr_right fun hcritical => ?_
  simp only [List.mem_map, evaluate_eq_warning_iff]
  constructor
  · rintro ⟨m, hm, -, halert⟩
    exact ⟨m, hm, halert⟩
  · rintro ⟨m, hm, halert⟩
    exact ⟨m, hm, fun h => hcritical ⟨m, hm, h⟩, halert⟩

theorem run_severity_ne_unknown : config.run.severity ≠ .unknown := by
  rw [run_severity_eq_fold]
  refine Severity.fold_ne_unknown ?_
  simp only [List.mem_map, not_exists, not_and]
  exact fun m _ => Verdict.severity_of_ne_unknown config.warning config.critical m.value m.label

theorem run_severity_eq_ok_iff :
    config.run.severity = .ok ↔
      ¬ config.SomeAlerts config.critical ∧ ¬ config.SomeAlerts config.warning := by
  have hunknown : config.run.severity ≠ .unknown := run_severity_ne_unknown
  rw [← run_severity_eq_critical_iff]
  constructor
  · intro hok
    have hcritical : config.run.severity ≠ .critical := by simp [hok]
    refine ⟨hcritical, fun hwarning => ?_⟩
    have h := run_severity_eq_warning_iff.2
      ⟨mt run_severity_eq_critical_iff.2 hcritical, hwarning⟩
    rw [hok] at h
    cases h
  · rintro ⟨hcritical, hwarning⟩
    have hnot : config.run.severity ≠ .warning := fun h =>
      hwarning (run_severity_eq_warning_iff.1 h).2
    rcases hseverity : config.run.severity <;> simp_all

/-- The order of the measurements does not matter for the severity. -/
theorem run_severity_perm {measurements : List Measurement}
    (h : measurements.Perm config.measurements) :
    ({ config with measurements } : Config).run.severity = config.run.severity := by
  rw [run_severity_eq_fold, run_severity_eq_fold]
  exact Severity.fold_perm (h.map _)

/-! ### The items of a run -/

theorem forall₂_isItem (config : Config) :
    List.Forall₂ config.IsItem config.measurements config.tally.items := by
  rw [tally_eq, List.forall₂_map_right_iff, List.forall₂_same]
  exact fun m _ => config.isItem_evaluate m

/-- An item is told by its measurement, in whatever run and at whatever place. -/
theorem items_getElem?_congr {measurements : List Measurement} {i j : Nat}
    (h : measurements[i]? = config.measurements[j]?) :
    ({ config with measurements } : Config).tally.items[i]? = config.tally.items[j]? := by
  rw [tally_eq, tally_eq, List.getElem?_map, List.getElem?_map]
  exact congrArg _ h

/-- The line of a run: items stand behind a bar, each after a blank. -/
theorem line_run (config : Config) :
    config.run.line = config.run.severity.label ++ " - ".toList ++ config.message ++
      if config.measurements = [] then []
      else " |".toList ++ config.tally.items.flatMap fun item => ' ' :: item.text := by
  have hitems : config.tally.items = [] ↔ config.measurements = [] := by
    rw [tally_eq, List.map_eq_nil_iff]
  rw [run]
  split
  · rename_i hnil
    rw [hitems.2 hnil, List.append_nil]
    rfl
  · rename_i hsome
    rw [StatusLine.render_of_ne_nil _ _ (mt hitems.1 hsome), List.append_assoc]
    rfl

theorem readMeasurement_eq_ok_iff {t : Text} {measurement : Measurement} :
    readMeasurement t = .ok measurement ↔ Measurement.read? t = some measurement := by
  rw [readMeasurement]
  split <;> simp_all

theorem readMeasurement_eq_error_iff {t : Text} {e : CheckError} :
    readMeasurement t = .error e ↔ Measurement.read? t = none ∧ .invalidMeasurement t = e := by
  rw [readMeasurement]
  split <;> simp_all

/-- What accepted settings are made of: their lists, and their measurements in order. -/
theorem read_texts_of_read {settings : Settings} (h : Config.read settings = .ok config) :
    RangeList.read settings.warning = .ok config.warning ∧
      RangeList.read settings.critical = .ok config.critical ∧
      settings.measurements.map Measurement.read? = config.measurements.map some := by
  obtain ⟨warning, hwarning, h⟩ := Except.bind_eq_ok_iff.1 h
  obtain ⟨critical, hcritical, h⟩ := Except.bind_eq_ok_iff.1 h
  obtain ⟨measurements, hmeasurements, h⟩ := Except.bind_eq_ok_iff.1 h
  split at h
  · cases h
  · cases h
    refine ⟨Except.mapError_eq_ok_iff.1 hwarning, Except.mapError_eq_ok_iff.1 hcritical, ?_⟩
    rw [← List.forall₂_eq_eq_eq, List.forall₂_map_left_iff, List.forall₂_map_right_iff]
    exact (Except.mapM_eq_ok_iff.1 hmeasurements).imp fun _ _ => readMeasurement_eq_ok_iff.1

/-- **What a run reports.** The severity is critical if some measurement alerts on the first
critical range of its label, else warning if some measurement alerts on the first warning range of
its label, else ok. It is the fold of the severities of the single measurements and does not depend
on their order. The line is the name of the severity, a hyphen and the message, and then, if
anything was measured, a bar and one item for each measurement, in the order of the settings, each
after a blank. An item shows the label, the value, the unit, the definitions of the first ranges of
the label and the limits, and does not depend on another measurement. -/
theorem run_reports (config : Config) :
    ((config.run.severity = .critical ↔ config.SomeAlerts config.critical) ∧
      (config.run.severity = .warning ↔
        ¬ config.SomeAlerts config.critical ∧ config.SomeAlerts config.warning) ∧
      (config.run.severity = .ok ↔
        ¬ config.SomeAlerts config.critical ∧ ¬ config.SomeAlerts config.warning) ∧
      config.run.severity ≠ .unknown) ∧
    (config.run.severity =
        Severity.fold (config.measurements.map fun m => (config.evaluate m).1) ∧
      ∀ measurements : List Measurement, measurements.Perm config.measurements →
        ({ config with measurements } : Config).run.severity = config.run.severity) ∧
    ((∃ name, config.run.severity.Spelled name ∧
        config.run.line = name ++ " - ".toList ++ config.message ++
          if config.measurements = [] then []
          else " |".toList ++ config.tally.items.flatMap fun item => ' ' :: item.text) ∧
      List.Forall₂ (fun measurement item =>
          config.IsItem measurement item ∧ config.Shows measurement item.text)
        config.measurements config.tally.items ∧
      (∀ (measurements : List Measurement) (i j : Nat),
        measurements[i]? = config.measurements[j]? →
          ({ config with measurements } : Config).tally.items[i]? = config.tally.items[j]?) ∧
      ∀ settings, Config.read settings = .ok config →
        RangeList.read settings.warning = .ok config.warning ∧
          RangeList.read settings.critical = .ok config.critical ∧
          settings.measurements.map Measurement.read? = config.measurements.map some) :=
  ⟨⟨run_severity_eq_critical_iff, run_severity_eq_warning_iff, run_severity_eq_ok_iff,
      run_severity_ne_unknown⟩,
    ⟨config.run_severity_eq_fold, fun _ => run_severity_perm⟩,
    ⟨⟨_, Severity.spelled_label _, config.line_run⟩,
      config.forall₂_isItem.imp fun _ _ h => ⟨h, h.shows⟩, fun _ _ _ => items_getElem?_congr,
      fun _ => read_texts_of_read⟩⟩

end Config

end ThresholdCheck
