import ThresholdCheck.Check.Outcome
import ThresholdCheck.CommandLine.Help

/-!
# What a command line is answered with

A refused command line gives an unknown outcome, so that the monitoring system sees why the check
did not run. Only requests for help or the version have no outcome.

## Main definitions

* `Reply` — an outcome or a page that was asked for
* `Reply.of` — the reply to a command line

## Main results

* `Reply.of_eq_outcome` — settings that can be read are answered with their outcome
-/

namespace ThresholdCheck

/-- The answer to a command line. -/
inductive Reply where
  | outcome (outcome : Outcome)
  /-- The page is styled. -/
  | request (request : Request) (page : Text)
deriving DecidableEq

/-- The reply to a command line, which starts with the name of the program. -/
def Reply.of (env : Environment) (words : List Word) : Reply :=
  match Settings.ofWords env words with
  | .ok settings => .outcome settings.outcome
  | .error (.error e) => .outcome (.unknown e.message)
  | .error (.request r) => .request r (r.page env (programNameOf words))

theorem Reply.of_eq_outcome {env : Environment} {words : List Word} {settings : Settings}
    (h : Settings.ofWords env words = .ok settings) :
    Reply.of env words = .outcome settings.outcome := by
  rw [Reply.of, h]

end ThresholdCheck
