import ThresholdCheck.CommandLine.Reply
import ThresholdCheck.Proofs.Check.Run
import ThresholdCheck.Proofs.Check.Wording

/-!
# The stages of a check

Settings are read input by input: the warning ranges, the critical ranges, the measurements from
left to right. Having nothing to check counts as one more input, which is refused. The first input
that is refused ends the check, and its error is all that the outcome shows. What comes after it is
never looked at, and neither are the settings that are no inputs; this is why settings that begin
alike have the same outcome.

A check whose inputs are all accepted has a known severity, so that an unknown outcome always means
a refused input.

## Main definitions

* `Settings.Input`, `Settings.inputs` — what a check reads, in order
* `Settings.Input.Refused` — which inputs are refused, and why
* `Settings.FirstRefused` — the first input that is refused has this error
* `Settings.IsConfig` — a configuration holds what the settings say
* `Settings.Ends` — the outcomes that settings can have

## Main results

* `Config.read_eq_error_iff`, `Config.read_eq_ok_iff` — which settings are refused or accepted
* `Settings.outcome_eq_iff_ends` — the outcome of settings
* `Settings.severity_outcome_eq_unknown_iff` — when it is unknown
* `Settings.outcome_congr_of_refused` — settings that begin alike
* `Settings.outcome_by_stages` — all of it
-/

namespace ThresholdCheck

namespace Settings

/-! ### Inputs -/

/-- One of the things that a check reads. -/
inductive Input where
  | ranges (t : Text)
  | measurement (t : Text)
  /-- There is nothing to check. -/
  | nothing

/-- The input is refused with an error. -/
inductive Input.Refused : Input → CheckError → Prop
  | ranges {t : Text} {cause : RangeError} (h : RangeList.read t = .error cause) :
      Refused (.ranges t) (.range cause)
  | measurement {t : Text} (h : Measurement.read? t = none) :
      Refused (.measurement t) (.invalidMeasurement t)
  | nothing : Refused .nothing .noMeasurement

/-- The texts that are read, in order. -/
def texts (settings : Settings) : List Input :=
  .ranges settings.warning :: .ranges settings.critical :: settings.measurements.map .measurement

/-- The inputs, in the order in which they are read. Only a dump does without a measurement. -/
def inputs (settings : Settings) : List Input :=
  settings.texts ++
    if settings.measurements.isEmpty && !settings.dump then [.nothing] else []

/-- The first input that is refused has this error. -/
def FirstRefused (settings : Settings) (e : CheckError) : Prop :=
  ∃ before input after, settings.inputs = before ++ input :: after ∧
    (∀ other ∈ before, ∀ e', ¬ other.Refused e') ∧ input.Refused e

/-- Reading an input for its error alone. -/
def Input.check : Input → Except CheckError Unit
  | ranges t => ((RangeList.read t).mapError .range).map fun _ => ()
  | measurement t => (Config.readMeasurement t).map fun _ => ()
  | nothing => .error .noMeasurement

theorem Input.check_eq_error_iff {input : Input} {e : CheckError} :
    input.check = .error e ↔ input.Refused e := by
  cases input with
  | ranges t =>
    rw [check, Except.map_eq_error_iff, Except.mapError_eq_error_iff]
    constructor
    · rintro ⟨cause, hcause, rfl⟩
      exact .ranges hcause
    · rintro (hcause | _ | _)
      exact ⟨_, hcause, rfl⟩
  | measurement t =>
    rw [check, Except.map_eq_error_iff, Config.readMeasurement_eq_error_iff]
    constructor
    · rintro ⟨hnone, rfl⟩
      exact .measurement hnone
    · rintro (_ | hnone | _)
      exact ⟨hnone, rfl⟩
  | nothing =>
    constructor
    · rintro ⟨⟩
      exact .nothing
    · rintro ⟨⟩
      rfl

theorem Input.exists_check_eq_ok_iff {input : Input} :
    (∃ u, input.check = .ok u) ↔ ∀ e, ¬ input.Refused e := by
  simp only [← check_eq_error_iff]
  cases input.check <;> simp

theorem firstRefused_iff {settings : Settings} {e : CheckError} :
    settings.FirstRefused e ↔ settings.inputs.mapM Input.check = .error e := by
  simp only [Except.mapM_eq_error_iff, Except.FirstFailure, Input.exists_check_eq_ok_iff,
    Input.check_eq_error_iff, FirstRefused]
  constructor
  · rintro ⟨before, input, after, h⟩
    exact ⟨input, before, after, h⟩
  · rintro ⟨input, before, after, h⟩
    exact ⟨before, input, after, h⟩

end Settings

/-! ### Reading settings -/

/-- The configuration holds what the settings say. -/
structure Settings.IsConfig (settings : Settings) (config : Config) : Prop where
  warning : RangeList.read settings.warning = .ok config.warning
  critical : RangeList.read settings.critical = .ok config.critical
  measurements : settings.measurements.map Measurement.read? = config.measurements.map some
  uom : config.uom = settings.uom
  minimum : config.minimum = settings.minimum
  maximum : config.maximum = settings.maximum
  message : config.message = settings.message
  dump : config.dump = settings.dump

namespace Config

variable {settings : Settings} {config : Config} {e : CheckError}

theorem mapM_readMeasurement_eq_ok_iff {texts : List Text} {measurements : List Measurement} :
    texts.mapM readMeasurement = .ok measurements ↔
      texts.map Measurement.read? = measurements.map some := by
  rw [Except.mapM_eq_ok_iff, ← List.forall₂_eq_eq_eq, List.forall₂_map_left_iff,
    List.forall₂_map_right_iff]
  simp only [readMeasurement_eq_ok_iff]

theorem isEmpty_eq_of_mapM {texts : List Text} {measurements : List Measurement}
    (h : texts.mapM readMeasurement = .ok measurements) :
    texts.isEmpty = measurements.isEmpty := by
  cases Except.mapM_eq_ok_iff.1 h <;> rfl

theorem read_eq_ok_iff :
    Config.read settings = .ok config ↔
      settings.IsConfig config ∧ (settings.measurements = [] → settings.dump = true) := by
  constructor
  · intro h
    obtain ⟨hwarning, hcritical, hmeasurements⟩ := read_texts_of_read h
    obtain ⟨warning, -, h⟩ := Except.bind_eq_ok_iff.1 h
    obtain ⟨critical, -, h⟩ := Except.bind_eq_ok_iff.1 h
    obtain ⟨measurements, hread, h⟩ := Except.bind_eq_ok_iff.1 h
    rw [← isEmpty_eq_of_mapM hread] at h
    split at h
    · cases h
    · rename_i hsome
      cases h
      refine ⟨⟨hwarning, hcritical, hmeasurements, rfl, rfl, rfl, rfl, rfl⟩, fun hnil => ?_⟩
      simpa [hnil] using hsome
  · rintro ⟨h, hdump⟩
    have hread := mapM_readMeasurement_eq_ok_iff.2 h.measurements
    have hsome : ¬ (config.measurements.isEmpty && !settings.dump) = true := by
      rw [← isEmpty_eq_of_mapM hread, Bool.and_eq_true, List.isEmpty_iff]
      rintro ⟨hnil, hcheck⟩
      simp [hdump hnil] at hcheck
    refine Except.bind_eq_ok_iff.2 ⟨_, Except.mapError_eq_ok_iff.2 h.warning, ?_⟩
    refine Except.bind_eq_ok_iff.2 ⟨_, Except.mapError_eq_ok_iff.2 h.critical, ?_⟩
    refine Except.bind_eq_ok_iff.2 ⟨_, hread, ?_⟩
    rw [if_neg hsome, ← h.uom, ← h.minimum, ← h.maximum, ← h.message, ← h.dump]
    rfl

theorem mapM_check_measurement (texts : List Text) :
    (texts.map Settings.Input.measurement).mapM Settings.Input.check =
      (texts.mapM readMeasurement).map (List.map fun _ => ()) := by
  rw [List.mapM_map]
  exact Except.mapM_map

/-- Settings are refused with the error of the first input that is. -/
theorem read_eq_error_iff : Config.read settings = .error e ↔ settings.FirstRefused e := by
  rw [Settings.firstRefused_iff, Settings.inputs, Settings.texts, List.cons_append,
    List.cons_append, List.mapM_cons, List.mapM_cons, List.mapM_append, mapM_check_measurement,
    Config.read, Settings.Input.check, Settings.Input.check]
  cases RangeList.read settings.warning with
  | error cause => simp [Except.mapError, Except.map, bind, Except.bind]
  | ok warning =>
    cases RangeList.read settings.critical with
    | error cause => simp [Except.mapError, Except.map, bind, Except.bind]
    | ok critical =>
      cases hread : settings.measurements.mapM readMeasurement with
      | error e' => simp [Except.mapError, Except.map, bind, Except.bind]
      | ok measurements =>
        rw [isEmpty_eq_of_mapM hread]
        by_cases hnothing : (measurements.isEmpty && !settings.dump) = true
        · simp [hnothing, Settings.Input.check, Except.mapError, Except.map, bind, Except.bind]
        · simp [hnothing, Except.mapError, Except.map, bind, Except.bind, pure, Except.pure]

end Config

namespace Settings

variable {settings other : Settings} {e : CheckError} {outcome : Outcome}

/-! ### Outcomes -/

/-- How a check ends: with the error of the first input that is refused, else with the ranges if a
dump is asked for, else with the result of checking. -/
inductive Ends (settings : Settings) : Outcome → Prop
  | refused {e : CheckError} {message : Text} (h : settings.FirstRefused e)
      (hmessage : e.Spelled message) : Ends settings ⟨.unknown, "UNKNOWN - ".toList ++ message⟩
  | dump {config : Config} (h : settings.IsConfig config) (hdump : settings.dump = true) :
      Ends settings ⟨.ok, config.dumpText⟩
  | run {config : Config} (h : settings.IsConfig config) (hdump : settings.dump = false)
      (hsome : settings.measurements ≠ []) : Ends settings config.run

theorem outcome_of_firstRefused (h : settings.FirstRefused e) {message : Text}
    (hmessage : e.Spelled message) :
    settings.outcome = ⟨.unknown, "UNKNOWN - ".toList ++ message⟩ := by
  rw [Settings.outcome, Config.read_eq_error_iff.2 h, CheckError.spelled_iff.1 hmessage]
  rfl

theorem severity_of_firstRefused (h : settings.FirstRefused e) :
    settings.outcome.severity = .unknown := by
  rw [outcome_of_firstRefused h (CheckError.spelled_iff.2 rfl)]

/-- A measurement in plain characters is shown as it was given. -/
theorem line_of_firstRefused_measurement {t : Text}
    (h : settings.FirstRefused (.invalidMeasurement t))
    (hplain : ∀ c ∈ t, (' ' ≤ c ∧ c ≤ '~') ∧ c ≠ '"' ∧ c ≠ '\\') :
    settings.outcome.line =
      "UNKNOWN - invalid measurement \"".toList ++ t ++
        "\": expected [<label>=]<value>".toList := by
  have hfront : "UNKNOWN - invalid measurement \"".toList =
      "UNKNOWN - ".toList ++ "invalid measurement ".toList ++ ['"'] := by
    decide
  have hback : "\": expected [<label>=]<value>".toList =
      '"' :: ": expected [<label>=]<value>".toList := by
    decide
  rw [outcome_of_firstRefused h (.invalidMeasurement t), Text.quoted_of_plain hplain, hfront, hback]
  simp only [List.append_assoc, List.cons_append, List.nil_append]

theorem Ends.outcome_eq (h : settings.Ends outcome) : settings.outcome = outcome := by
  cases h with
  | refused h hmessage => exact outcome_of_firstRefused h hmessage
  | dump h hdump =>
    have hread := Config.read_eq_ok_iff.2 ⟨h, fun _ => hdump⟩
    rw [Settings.outcome, hread]
    simp only [Config.outcome, h.dump, hdump, if_true]
  | run h hdump hsome =>
    have hread := Config.read_eq_ok_iff.2 ⟨h, fun hnil => absurd hnil hsome⟩
    rw [Settings.outcome, hread]
    simp only [Config.outcome, h.dump, hdump, Bool.false_eq_true, if_false]

theorem ends_outcome (settings : Settings) : settings.Ends settings.outcome := by
  cases hread : Config.read settings with
  | error e =>
    have hrefused := Config.read_eq_error_iff.1 hread
    have hmessage : e.Spelled e.message := CheckError.spelled_iff.2 rfl
    rw [outcome_of_firstRefused hrefused hmessage]
    exact .refused hrefused hmessage
  | ok config =>
    obtain ⟨hconfig, hnothing⟩ := Config.read_eq_ok_iff.1 hread
    rw [Settings.outcome, hread]
    cases hdump : settings.dump with
    | true =>
      simp only [Config.outcome, hconfig.dump, hdump, if_true]
      exact .dump hconfig hdump
    | false =>
      simp only [Config.outcome, hconfig.dump, hdump, Bool.false_eq_true, if_false]
      exact .run hconfig hdump fun hnil => by simp [hnothing hnil] at hdump

theorem outcome_eq_iff_ends : settings.outcome = outcome ↔ settings.Ends outcome :=
  ⟨fun h => h ▸ settings.ends_outcome, Ends.outcome_eq⟩

/-- A check that runs has a known severity, so an unknown one means that an input is refused. -/
theorem severity_outcome_eq_unknown_iff :
    settings.outcome.severity = .unknown ↔ ∃ e, settings.FirstRefused e := by
  constructor
  · intro hunknown
    have hends := settings.ends_outcome
    generalize settings.outcome = outcome at hunknown hends
    cases hends with
    | refused h => exact ⟨_, h⟩
    | dump => cases hunknown
    | run => exact absurd hunknown Config.run_severity_ne_unknown
  · rintro ⟨e, h⟩
    exact severity_of_firstRefused h

theorem exitCode_eq_three_iff {severity : Severity} :
    severity.exitCode = 3 ↔ severity = .unknown := by
  cases severity <;> decide

/-! ### Settings that begin alike -/

/-- Wherever an input is refused, the first one that is stands there or before it. -/
theorem exists_firstRefused {input : Input} (hmem : input ∈ settings.inputs)
    (h : input.Refused e) : ∃ e', settings.FirstRefused e' := by
  simp only [firstRefused_iff]
  exact Except.exists_mapM_eq_error hmem (Input.check_eq_error_iff.2 h)

/-- Settings whose inputs are the same up to one that is refused have the same outcome. -/
theorem outcome_congr_of_refused {before after after' : List Input} {input : Input}
    (h : settings.inputs = before ++ input :: after)
    (hother : other.inputs = before ++ input :: after') (hrefused : input.Refused e) :
    settings.outcome = other.outcome := by
  have hmem : input ∈ before ++ [input] := by simp
  obtain ⟨e', he'⟩ := Except.exists_mapM_eq_error hmem (Input.check_eq_error_iff.2 hrefused)
  have hfirst : ∀ {s : Settings} {rest : List Input}, s.inputs = before ++ input :: rest →
      s.FirstRefused e' := by
    intro s rest hs
    rw [firstRefused_iff, hs, List.append_cons]
    exact Except.mapM_append_of_error he' rest
  have hmessage : e'.Spelled e'.message := CheckError.spelled_iff.2 rfl
  rw [outcome_of_firstRefused (hfirst h) hmessage, outcome_of_firstRefused (hfirst hother) hmessage]

/-- A refused text is refused whether or not a dump is asked for. -/
theorem outcome_with_dump_of_refused {input : Input} (hmem : input ∈ settings.texts)
    (hrefused : input.Refused e) (dump : Bool) :
    ({ settings with dump } : Settings).outcome = settings.outcome := by
  obtain ⟨before, after, htexts⟩ := List.append_of_mem hmem
  have hinputs : ∀ s : Settings, s.texts = settings.texts →
      ∃ rest, s.inputs = before ++ input :: rest := by
    intro s hs
    refine ⟨after ++ if s.measurements.isEmpty && !s.dump then [.nothing] else [], ?_⟩
    rw [inputs, hs, htexts, List.append_assoc, List.cons_append]
  obtain ⟨rest, h⟩ := hinputs settings rfl
  obtain ⟨rest', h'⟩ := hinputs { settings with dump } rfl
  exact outcome_congr_of_refused h' h hrefused

/-- **The first input that is refused decides.** The inputs of a check are the warning ranges, the
critical ranges, the measurements in order, and the lack of anything to check. If one is refused,
the outcome is unknown and shows the error of the first such input in its own words: the cause for
ranges, the measurement in quotes, or that there is none. If none is refused, the outcome is the
dump of the ranges or the result of checking. So the exit code is that of an unknown outcome exactly
if some input is refused; a refused text is refused in a dump as well; and settings whose inputs
are the same up to a refused one have the same outcome, whatever else they hold. A command line is
answered with the outcome of its settings. -/
theorem outcome_by_stages (settings : Settings) :
    ((∀ outcome, settings.outcome = outcome ↔ settings.Ends outcome) ∧
      (∀ t, settings.FirstRefused (.invalidMeasurement t) →
        (∀ c ∈ t, (' ' ≤ c ∧ c ≤ '~') ∧ c ≠ '"' ∧ c ≠ '\\') →
          settings.outcome.line =
            "UNKNOWN - invalid measurement \"".toList ++ t ++
              "\": expected [<label>=]<value>".toList) ∧
      (settings.FirstRefused .noMeasurement →
        settings.outcome.line = "UNKNOWN - no measurement given".toList)) ∧
    ((settings.outcome.severity = .unknown ↔ ∃ e, settings.FirstRefused e) ∧
      (settings.outcome.severity.exitCode = 3 ↔ ∃ e, settings.FirstRefused e) ∧
      ((∃ e, settings.FirstRefused e) ↔ ∃ input ∈ settings.inputs, ∃ e, input.Refused e)) ∧
    (∀ input ∈ settings.texts, ∀ e, input.Refused e → ∀ dump,
      ({ settings with dump } : Settings).outcome = settings.outcome ∧
        settings.outcome.severity = .unknown) ∧
    (∀ (other : Settings) (before after after' : List Input) (input : Input) (e : CheckError),
      settings.inputs = before ++ input :: after → other.inputs = before ++ input :: after' →
        input.Refused e → settings.outcome = other.outcome) ∧
    ∀ env words, Settings.ofWords env words = .ok settings →
      Reply.of env words = .outcome settings.outcome := by
  refine ⟨⟨fun _ => outcome_eq_iff_ends, fun t => line_of_firstRefused_measurement, fun h => ?_⟩,
    ⟨severity_outcome_eq_unknown_iff, ?_, ?_⟩, ?_, ?_, ?_⟩
  · rw [outcome_of_firstRefused h .noMeasurement]
    rfl
  · rw [exitCode_eq_three_iff, severity_outcome_eq_unknown_iff]
  · constructor
    · rintro ⟨e, before, input, after, hinputs, -, h⟩
      exact ⟨input, by simp [hinputs], e, h⟩
    · rintro ⟨input, hmem, e, h⟩
      exact exists_firstRefused hmem h
  · intro input hmem e h dump
    refine ⟨outcome_with_dump_of_refused hmem h dump, severity_outcome_eq_unknown_iff.2 ?_⟩
    exact exists_firstRefused (List.mem_append_left _ hmem) h
  · intro other before after after' input e h hother hrefused
    exact outcome_congr_of_refused h hother hrefused
  · exact fun env words => Reply.of_eq_outcome

end Settings

end ThresholdCheck
