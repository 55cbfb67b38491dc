import ThresholdCheck.Proofs.Check.Run
import ThresholdCheck.Session

/-!
# What a session adds up to

A session is a machine whose steps either change what later measurements are held against, or add to
the severity and the items, or ask for the line. What is refused changes nothing. So the state at
any point is told by the steps since the last reset: the severity is the fold of the severities that
they added, and there is one item for each measurement that was taken, in order.

A check is the special case in which nothing is changed between its measurements. A session that is
set up like the check and takes them one by one reports the same line.

## Main definitions

* `Session.after` — the state after some steps
* `Session.Step.severities`, `Session.Answer.items` — what one step adds
* `Session.severities`, `Session.measured` — what some steps add
* `Session.FitFor` — a session that holds what a check holds

## Main results

* `Session.step_of_refused` — what is refused changes nothing
* `Session.step_adds`, `Session.after_adds` — one step, and all steps without a reset
* `Session.after_reset` — only the steps since the last reset count
* `Session.line_of_measurements` — a session in place of a check
-/

namespace ThresholdCheck

namespace Session

variable {session : Session} {s : Step}

/-- The state after some steps. -/
def after (session : Session) (steps : List Step) : Session :=
  steps.foldl (fun session s => (session.step s).1) session

/-- Each step is taken in the state that the steps before it lead to. -/
theorem run_concat (session : Session) (steps : List Step) (s : Step) :
    session.run (steps ++ [s]) = session.run steps ++ [(session.after steps).step s] := by
  induction steps generalizing session with
  | nil => rfl
  | cons first steps ih =>
    rw [List.cons_append, run, run, ih]
    rfl

/-! ### One step -/

/-- Something was refused. -/
inductive Answer.Refuses : Answer → Prop
  | list (cause : RangeError) : Refuses (.refusedList cause)
  | measurement (t : Text) : Refuses (.refusedMeasurement t)

theorem step_of_refused (h : (session.step s).2.Refuses) : (session.step s).1 = session := by
  cases s with
  | setWarning t =>
    rw [step] at h ⊢
    split at h
    · cases h
    · rfl
  | setCritical t =>
    rw [step] at h ⊢
    split at h
    · cases h
    · rfl
  | measure t =>
    rw [step] at h ⊢
    split at h
    · cases h
    · rfl
  | _ => cases h

/-- The severity that a step adds, given what it gave back. -/
def Step.severities : Step → Answer → List Severity
  | .combine severity, _ => [severity]
  | _, .measured severity _ => [severity]
  | _, _ => []

/-- The item that was added. -/
def Answer.items : Answer → List PerfData
  | .measured _ item => [item]
  | _ => []

/-- What a step adds; a reset takes everything away. -/
theorem step_adds (h : s ≠ .reset) :
    (session.step s).1.severity =
        (s.severities (session.step s).2).foldl Severity.combine session.severity ∧
      (session.step s).1.items = session.items ++ (session.step s).2.items := by
  cases s with
  | setWarning t =>
    rw [step]
    split <;> exact ⟨rfl, (List.append_nil _).symm⟩
  | setCritical t =>
    rw [step]
    split <;> exact ⟨rfl, (List.append_nil _).symm⟩
  | measure t =>
    rw [step]
    split
    · exact ⟨rfl, rfl⟩
    · exact ⟨rfl, (List.append_nil _).symm⟩
  | reset => exact absurd rfl h
  | _ => exact ⟨rfl, (List.append_nil _).symm⟩

/-! ### All steps -/

/-- The severities that some steps add, in order. -/
def severities (session : Session) : List Step → List Severity
  | [] => []
  | s :: steps => s.severities (session.step s).2 ++ severities (session.step s).1 steps

/-- The items of the measurements that are taken, in order. -/
def measured (session : Session) (steps : List Step) : List PerfData :=
  (session.run steps).flatMap fun result => result.2.items

/-- Steps without a reset add up: the severity is the fold of what was there and what they add, and
the items are those that were there and one for each measurement. -/
theorem after_adds {steps : List Step} (h : .reset ∉ steps) :
    (session.after steps).severity =
        session.severity.combine (Severity.fold (session.severities steps)) ∧
      (session.after steps).items = session.items ++ session.measured steps := by
  rw [← Severity.foldl_combine]
  induction steps generalizing session with
  | nil => exact ⟨rfl, (List.append_nil _).symm⟩
  | cons s steps ih =>
    rw [List.mem_cons, not_or] at h
    obtain ⟨hseverity, hitems⟩ := @step_adds session s (Ne.symm h.1)
    obtain ⟨ihseverity, ihitems⟩ := @ih (session.step s).1 h.2
    constructor
    · rw [severities, List.foldl_append, ← hseverity]
      exact ihseverity
    · rw [measured, run, List.flatMap_cons, ← List.append_assoc, ← hitems]
      exact ihitems

/-- Only the steps since the last reset count. -/
theorem after_reset (session : Session) (before : List Step) {steps : List Step}
    (h : .reset ∉ steps) :
    (session.after (before ++ .reset :: steps)).severity = Severity.fold (start.severities steps) ∧
      (session.after (before ++ .reset :: steps)).items = start.measured steps := by
  have hstart : session.after (before ++ .reset :: steps) = start.after steps := by
    rw [after, List.foldl_append, List.foldl_cons]
    rfl
  rw [hstart]
  exact after_adds h

/-! ### A session in place of a check -/

/-- The session holds the ranges, the unit and the limits of a check. -/
structure FitFor (session : Session) (config : Config) : Prop where
  warning : session.warning = config.warning
  critical : session.critical = config.critical
  uom : session.uom = config.uom
  minimum : session.minimum = config.minimum
  maximum : session.maximum = config.maximum

/-- What the session has added up so far. -/
def tally (session : Session) : Tally := ⟨session.severity, session.items⟩

variable {config : Config}

/-- Taking a measurement is a step of the check. -/
theorem FitFor.measure (h : session.FitFor config) (measurement : Measurement) :
    (session.measure measurement).1.FitFor config ∧
      (session.measure measurement).1.tally = config.step session.tally measurement := by
  refine ⟨⟨h.warning, h.critical, h.uom, h.minimum, h.maximum⟩, ?_⟩
  rw [Config.step_eq, Config.evaluate, Config.item, ← h.warning, ← h.critical, ← h.uom,
    ← h.minimum, ← h.maximum]
  rfl

theorem FitFor.after_measurements (h : session.FitFor config) {texts : List Text}
    {measurements : List Measurement}
    (hread : texts.map Measurement.read? = measurements.map some) :
    (session.after (texts.map .measure)).tally = measurements.foldl config.step session.tally := by
  induction texts generalizing session measurements with
  | nil =>
    obtain rfl : measurements = [] := List.map_eq_nil_iff.1 hread.symm
    rfl
  | cons t texts ih =>
    cases measurements with
    | nil => cases hread
    | cons measurement measurements =>
      obtain ⟨ht, hrest⟩ := List.cons.inj hread
      have hstep : (session.step (.measure t)).1 = (session.measure measurement).1 := by
        rw [step, ht]
      obtain ⟨hfit, htally⟩ := h.measure measurement
      rw [List.foldl_cons, ← htally, ← ih hfit hrest, ← hstep]
      rfl

/-- **A session in place of a check.** A session that holds what the check holds, takes the
measurements of its settings one by one and is asked for the line reports the line of the check. -/
theorem line_of_measurements (h : session.FitFor config) (hfresh : session.tally = .start)
    {settings : Settings} (hread : Config.read settings = .ok config) :
    (session.after (settings.measurements.map .measure)).step (.render config.message) =
      (session.after (settings.measurements.map .measure), .line config.run.line) := by
  have htally : (session.after (settings.measurements.map .measure)).tally = config.tally := by
    rw [h.after_measurements (Config.read_texts_of_read hread).2.2, hfresh]
    rfl
  rw [step, Config.run, ← htally]
  rfl

end Session

end ThresholdCheck
