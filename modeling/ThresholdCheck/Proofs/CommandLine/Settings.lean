import ThresholdCheck.CommandLine.Arguments
import ThresholdCheck.Proofs.Except

/-!
# Settings of a command line

What the words did not give is looked up: each setting has the value of its option, else what its
variable holds, else its default. A variable whose value is not UTF-8 spoils the settings, but only
where it is looked at; one whose setting is given by an option may hold anything. Nothing else can
go wrong once the words have been read.

## Main definitions

* `Settings.value?`, `Settings.assign` — the value of one setting, and another one in its place
* `Arguments.Malformed` — a variable that is looked at is not UTF-8

## Main results

* `Arguments.settings_eq_ok_iff`, `Arguments.settings_eq_error_iff` — settings follow from the
  values that are resolved, and fail for a variable only
* `Settings.ofWords_eq_ok_iff`, `Settings.ofWords_eq_error_iff` — the two stages of a command line
-/

namespace ThresholdCheck

/-! ### Single settings -/

namespace Settings

/-- The text that a setting has. -/
def value? (settings : Settings) : Setting → Option Text
  | .warning => some settings.warning
  | .critical => some settings.critical
  | .uom => some settings.uom
  | .minimum => settings.minimum
  | .maximum => settings.maximum
  | .message => some settings.message

/-- The settings with another value for one of them. -/
def assign (settings : Settings) : Setting → Text → Settings
  | .warning, value => { settings with warning := value }
  | .critical, value => { settings with critical := value }
  | .uom, value => { settings with uom := value }
  | .minimum, value => { settings with minimum := some value }
  | .maximum, value => { settings with maximum := some value }
  | .message, value => { settings with message := value }

variable {settings : Settings} {setting other : Setting} {value : Text}

theorem value?_assign : (settings.assign setting value).value? setting = some value := by
  cases setting <;> rfl

theorem value?_assign_of_ne (h : other ≠ setting) :
    (settings.assign setting value).value? other = settings.value? other := by
  cases setting <;> cases other <;> first | rfl | exact absurd rfl h

theorem dump_assign : (settings.assign setting value).dump = settings.dump := by
  cases setting <;> rfl

theorem measurements_assign :
    (settings.assign setting value).measurements = settings.measurements := by
  cases setting <;> rfl

end Settings

/-! ### What is resolved -/

namespace Arguments

variable {arguments : Arguments} {env : Environment} {setting : Setting} {settings : Settings}
  {value : Text} {e : UsageError}

/-- Where no option gives the setting, its variable holds a value that is not UTF-8. -/
def Malformed (arguments : Arguments) (env : Environment) (setting : Setting) : Prop :=
  arguments.value? setting = none ∧ ∃ name word, setting.variableName? = some name ∧
    env.get? name = some word ∧ word.text? = none

theorem resolve?_eq_error_iff :
    arguments.resolve? env setting = .error e ↔
      arguments.Malformed env setting ∧ e = .malformedText := by
  rw [resolve?, Malformed]
  cases arguments.value? setting with
  | some t => simp
  | none =>
    cases hname : setting.variableName? with
    | none => simp
    | some name =>
      cases hget : env.get? name with
      | none => simp [hget]
      | some word => cases hword : word.text? <;> simp [hget, hword, eq_comm]

/-- A setting with a default always has a value. -/
theorem exists_of_resolve? (hdefault : setting.default?.isSome) {resolved : Option Text}
    (h : arguments.resolve? env setting = .ok resolved) : ∃ t, resolved = some t := by
  rw [resolve?] at h
  split at h
  · cases h
    exact ⟨_, rfl⟩
  · cases h
    exact Option.isSome_iff_exists.1 hdefault
  · split at h
    · cases h
      exact ⟨_, rfl⟩
    · cases h

theorem resolve_eq_ok_iff (hdefault : setting.default?.isSome) :
    arguments.resolve env setting = .ok value ↔
      arguments.resolve? env setting = .ok (some value) := by
  rw [resolve, Except.map_eq_ok_iff]
  constructor
  · rintro ⟨resolved, hresolved, rfl⟩
    obtain ⟨t, rfl⟩ := exists_of_resolve? hdefault hresolved
    exact hresolved
  · exact fun h => ⟨_, h, rfl⟩

/-- Settings follow from the values that are resolved. -/
theorem settings_eq_ok_iff :
    arguments.settings env = .ok settings ↔
      (∀ setting, arguments.resolve? env setting = .ok (settings.value? setting)) ∧
        settings.dump = arguments.dump ∧ settings.measurements = arguments.measurements := by
  constructor
  · intro h
    obtain ⟨warning, hwarning, h⟩ := Except.bind_eq_ok_iff.1 h
    obtain ⟨critical, hcritical, h⟩ := Except.bind_eq_ok_iff.1 h
    obtain ⟨uom, huom, h⟩ := Except.bind_eq_ok_iff.1 h
    obtain ⟨minimum, hminimum, h⟩ := Except.bind_eq_ok_iff.1 h
    obtain ⟨maximum, hmaximum, h⟩ := Except.bind_eq_ok_iff.1 h
    obtain ⟨message, hmessage, h⟩ := Except.bind_eq_ok_iff.1 h
    cases h
    refine ⟨fun setting => ?_, rfl, rfl⟩
    cases setting with
    | warning => exact (resolve_eq_ok_iff rfl).1 hwarning
    | critical => exact (resolve_eq_ok_iff rfl).1 hcritical
    | uom => exact (resolve_eq_ok_iff rfl).1 huom
    | minimum => exact hminimum
    | maximum => exact hmaximum
    | message => exact (resolve_eq_ok_iff rfl).1 hmessage
  · rintro ⟨hvalues, hdump, hmeasurements⟩
    refine Except.bind_eq_ok_iff.2 ⟨_, (resolve_eq_ok_iff rfl).2 (hvalues .warning), ?_⟩
    refine Except.bind_eq_ok_iff.2 ⟨_, (resolve_eq_ok_iff rfl).2 (hvalues .critical), ?_⟩
    refine Except.bind_eq_ok_iff.2 ⟨_, (resolve_eq_ok_iff rfl).2 (hvalues .uom), ?_⟩
    refine Except.bind_eq_ok_iff.2 ⟨_, hvalues .minimum, ?_⟩
    refine Except.bind_eq_ok_iff.2 ⟨_, hvalues .maximum, ?_⟩
    refine Except.bind_eq_ok_iff.2 ⟨_, (resolve_eq_ok_iff rfl).2 (hvalues .message), ?_⟩
    rw [← hdump, ← hmeasurements]
    rfl

theorem resolve_eq_error_iff :
    arguments.resolve env setting = .error e ↔
      arguments.Malformed env setting ∧ e = .malformedText :=
  Except.map_eq_error_iff.trans resolve?_eq_error_iff

theorem malformed_of_settings_eq_error (h : arguments.settings env = .error e) :
    ∃ setting, arguments.Malformed env setting ∧ e = .malformedText := by
  rcases Except.bind_eq_error_iff.1 h with h | ⟨warning, -, h⟩
  · exact ⟨_, resolve_eq_error_iff.1 h⟩
  rcases Except.bind_eq_error_iff.1 h with h | ⟨critical, -, h⟩
  · exact ⟨_, resolve_eq_error_iff.1 h⟩
  rcases Except.bind_eq_error_iff.1 h with h | ⟨uom, -, h⟩
  · exact ⟨_, resolve_eq_error_iff.1 h⟩
  rcases Except.bind_eq_error_iff.1 h with h | ⟨minimum, -, h⟩
  · exact ⟨_, resolve?_eq_error_iff.1 h⟩
  rcases Except.bind_eq_error_iff.1 h with h | ⟨maximum, -, h⟩
  · exact ⟨_, resolve?_eq_error_iff.1 h⟩
  rcases Except.bind_eq_error_iff.1 h with h | ⟨message, -, h⟩
  · exact ⟨_, resolve_eq_error_iff.1 h⟩
  cases h

/-- Settings fail for a variable only. -/
theorem settings_eq_error_iff :
    arguments.settings env = .error e ↔
      ∃ setting, arguments.Malformed env setting ∧ e = .malformedText := by
  refine ⟨malformed_of_settings_eq_error, ?_⟩
  rintro ⟨setting, hmalformed, rfl⟩
  have hfails := resolve?_eq_error_iff.2 ⟨hmalformed, rfl⟩
  cases hsettings : arguments.settings env with
  | ok settings => cases hfails.symm.trans ((settings_eq_ok_iff.1 hsettings).1 setting)
  | error e' =>
    obtain ⟨-, -, rfl⟩ := malformed_of_settings_eq_error hsettings
    rfl

end Arguments

/-! ### The whole command line -/

namespace Settings

variable {env : Environment} {words : List Word} {settings : Settings}

theorem ofWords_eq_ok_iff :
    Settings.ofWords env words = .ok settings ↔
      ∃ arguments, Arguments.read words.tail = .ok arguments ∧
        arguments.settings env = .ok settings := by
  rw [ofWords, Except.bind_eq_ok_iff]
  simp only [Except.mapError_eq_ok_iff]

/-- The words are at fault, or else a variable. -/
theorem ofWords_eq_error_iff {halt : Halt} :
    Settings.ofWords env words = .error halt ↔
      Arguments.read words.tail = .error halt ∨
        ∃ arguments, Arguments.read words.tail = .ok arguments ∧
          ∃ setting, arguments.Malformed env setting ∧ halt = .error .malformedText := by
  rw [ofWords, Except.bind_eq_error_iff]
  simp only [Except.mapError_eq_error_iff, Arguments.settings_eq_error_iff]
  constructor
  · rintro (h | ⟨arguments, hread, _, ⟨setting, hmalformed, rfl⟩, rfl⟩)
    · exact .inl h
    · exact .inr ⟨arguments, hread, setting, hmalformed, rfl⟩
  · rintro (h | ⟨arguments, hread, setting, hmalformed, rfl⟩)
    · exact .inl h
    · exact .inr ⟨arguments, hread, _, ⟨setting, hmalformed, rfl⟩, rfl⟩

end Settings

end ThresholdCheck
