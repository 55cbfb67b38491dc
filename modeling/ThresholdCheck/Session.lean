import ThresholdCheck.Measurement
import ThresholdCheck.StatusLine
import ThresholdCheck.Verdict

/-!
# Sessions

A plugin that takes its measurements one by one: ranges, unit and limits may change in between, and
the severity and the performance data add up until the status line is asked for.

## Main definitions

* `Session` — the state
* `Session.Step` — what can be done
* `Session.Answer` — what a step gives back
* `Session.step`, `Session.run` — one step, and all of them
-/

namespace ThresholdCheck

/-- The state of a plugin between measurements. -/
structure Session where
  warning : RangeList
  critical : RangeList
  severity : Severity
  uom : Text
  minimum : Option Text
  maximum : Option Text
  /-- The performance data so far, in order. -/
  items : List PerfData
deriving DecidableEq

namespace Session

/-- What can be done in a session. -/
inductive Step where
  | setWarning (list : Text)
  | setCritical (list : Text)
  | setUom (uom : Text)
  | setMinimum (limit : Option Text)
  | setMaximum (limit : Option Text)
  | measure (measurement : Text)
  | combine (severity : Severity)
  | render (message : Text)
  | reset
deriving DecidableEq

/-- What a step gives back. -/
inductive Answer where
  | done
  /-- So many ranges were read. -/
  | ranges (count : Nat)
  | refusedList (cause : RangeError)
  | measured (severity : Severity) (item : PerfData)
  | refusedMeasurement (measurement : Text)
  | line (t : Text)
deriving DecidableEq

/-- The state at the start. -/
def start : Session := ⟨⟨[]⟩, ⟨[]⟩, .ok, [], none, none, []⟩

/-- The item of a measurement before it is evaluated. -/
def item (session : Session) (measurement : Measurement) : PerfData :=
  { PerfData.bare measurement.label measurement.value session.uom with
    minimum := session.minimum
    maximum := session.maximum }

/-- Take a measurement. -/
def measure (session : Session) (measurement : Measurement) : Session × Answer :=
  let (severity, item) := (session.item measurement).evaluate session.warning session.critical
  ({ session with
      severity := session.severity.combine severity
      items := session.items ++ [item] },
    .measured severity item)

/-- One step. What is refused leaves the state as it is. -/
def step (session : Session) : Step → Session × Answer
  | .setWarning t =>
    match RangeList.read t with
    | .ok list => ({ session with warning := list }, .ranges list.length)
    | .error e => (session, .refusedList e)
  | .setCritical t =>
    match RangeList.read t with
    | .ok list => ({ session with critical := list }, .ranges list.length)
    | .error e => (session, .refusedList e)
  | .setUom uom => ({ session with uom }, .done)
  | .setMinimum minimum => ({ session with minimum }, .done)
  | .setMaximum maximum => ({ session with maximum }, .done)
  | .measure t =>
    match Measurement.read? t with
    | some measurement => session.measure measurement
    | none => (session, .refusedMeasurement t)
  | .combine severity => ({ session with severity := session.severity.combine severity }, .done)
  | .render message => (session, .line (StatusLine.render session.severity message session.items))
  | .reset => (start, .done)

/-- The states after the steps, each with what the step gave back. -/
def run (session : Session) : List Step → List (Session × Answer)
  | [] => []
  | s :: steps =>
    let result := session.step s
    result :: run result.1 steps

end Session

end ThresholdCheck
