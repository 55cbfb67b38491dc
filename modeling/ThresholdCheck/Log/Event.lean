import ThresholdCheck.Decimal.Shortest
import ThresholdCheck.Severity
import ThresholdCheck.Text.Quoted

/-!
# Log events

## Main definitions

* `Log.Level` — how much an event matters
* `Log.Event` — a message with named values, under a target
* `Log.Event.text` — the event as a line
-/

namespace ThresholdCheck

namespace Log

/-- Levels of events, the weightiest first. -/
inductive Level where
  | error
  | warn
  | info
  | debug
  | trace
deriving DecidableEq

/-- How many levels are at least as weighty. -/
def Level.rank : Level → Nat
  | error => 1
  | warn => 2
  | info => 3
  | debug => 4
  | trace => 5

/-- The name of a level in a log line. -/
def Level.label : Level → Text
  | error => "ERROR".toList
  | warn => "WARN".toList
  | info => "INFO".toList
  | debug => "DEBUG".toList
  | trace => "TRACE".toList

/-- One event. The values of its fields are shown as they are. -/
structure Event where
  level : Level
  target : Text
  message : Text
  fields : List (Text × Text)
deriving DecidableEq

namespace Event

/-- The event as a line. -/
def text (event : Event) : Text :=
  event.level.label ++ ' ' :: event.target ++ ": ".toList ++ event.message ++
    event.fields.flatMap fun (name, value) => ' ' :: name ++ '=' :: value

end Event

/-- Numbers from 0.0001 to below 10 ^ 16 are positional. -/
def numberLayout : DecimalLayout := ⟨-3, 16, false, .up⟩

/-- A number in a log line. -/
def number (x : Binary64) : Text := x.shortestText numberLayout

end Log

end ThresholdCheck
