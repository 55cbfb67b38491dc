import ThresholdCheck.Environment
import ThresholdCheck.Log.Directive

/-!
# Which events are logged

A filter is a list of directives, written with commas between them. The most specific directive that
applies to an event decides; without one the event is not logged.

## Main definitions

* `Log.Filter` — all directives
* `Log.Filter.allows` — whether an event is logged
* `Log.Filter.read` — the filter of a text
* `Log.Filter.ofEnvironment?` — the filter that is asked for, or the usual one
-/

namespace ThresholdCheck

namespace Log

/-- The directives of a filter, in the order in which they were given. -/
structure Filter where
  directives : List Directive
deriving DecidableEq

namespace Filter

/-- Prefer a later directive unless it is less specific. -/
def prefer (best : Option Directive) (directive : Directive) : Option Directive :=
  match best with
  | none => some directive
  | some other => if directive.lessSpecific other then some other else some directive

/-- The directive that decides on an event. -/
def deciding (filter : Filter) (event : Event) : Option Directive :=
  (filter.directives.filter fun directive => directive.applies event).foldl prefer none

/-- Whether an event is logged. -/
def allows (filter : Filter) (event : Event) : Bool :=
  (filter.deciding event).any fun directive => directive.admits event.level

/-- The filter of a text, or the fault of its first bad directive. Empty pieces are left out. -/
def read (t : Text) : Except Directive.Fault Filter := do
  return ⟨← (Text.segments ',' t).mapM Directive.read⟩

/-- The filter of a program that was not asked for another: warnings and errors of its own
targets. -/
def usual : Filter where
  directives :=
    ["check_range".toList, "pluginkit_check".toList, "pluginkit_core".toList].map fun target =>
      ⟨target, none, some .warn, false⟩

/-- The variable that asks for a filter. -/
def variableName : Text := "RUST_LOG".toList

/-- The filter that is asked for, or the usual one if none is or what the variable holds is
malformed. A torn directive leaves no filter. -/
def ofEnvironment? (env : Environment) : Option Filter :=
  match (env.text? variableName).map read with
  | some (.ok filter) => some filter
  | some (.error .torn) => none
  | _ => some usual

end Filter

end Log

end ThresholdCheck
