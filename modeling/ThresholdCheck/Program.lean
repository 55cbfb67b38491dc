import ThresholdCheck.Check.Journal
import ThresholdCheck.CommandLine.Reply
import ThresholdCheck.Environment.File
import ThresholdCheck.Log.Filter

/-!
# The program

One run: the environment is completed from a file, the log filter is read, the command line is
answered on standard output, and what happens is logged. The exit code tells the severity even if
nobody reads the output. A run whose environment or filter cannot be had is broken off before that.

## Main definitions

* `Invocation` — what a run is given
* `Completion` — what a run leaves behind
* `Invocation.setup?` — the environment and the filter of a run
* `Invocation.run` — one run

## Main results

* `Invocation.exitCode_run_outputClosed` — the exit code is the same if nobody reads the output
* `Invocation.escape_not_mem_output` — a page is written free of terminal control
* `Invocation.run_eq_brokenOff_iff` — when a run is broken off
-/

namespace ThresholdCheck

/-- What a run is given. -/
structure Invocation where
  /-- The command line, with the name of the program first. -/
  words : List Word
  environment : Environment
  /-- The text of the environment file, if there is one. -/
  file? : Option Text
  /-- Nobody reads standard output. -/
  outputClosed : Bool

/-- What a run leaves behind. -/
structure Completion where
  exitCode : UInt8
  output : Text
  log : List Log.Event
deriving DecidableEq

/-- What a run leaves behind that was broken off. -/
def Completion.brokenOff : Completion := ⟨101, [], []⟩

namespace Reply

/-- What is written to standard output. -/
def output : Reply → Text
  | outcome o => StatusLine.printed o.line
  | request _ page => Terminal.written page

/-- The exit code; a request for a text is always met. -/
def exitCode : Reply → UInt8
  | outcome o => o.severity.exitCode
  | request _ _ => 0

end Reply

namespace Journal

/-- Where output is logged. -/
def outputTarget : Text := "pluginkit_core::output".toList

/-- Nobody reads the output. -/
def outputLost : Log.Event where
  level := .error
  target := outputTarget
  message := "Failed to write plugin output".toList
  fields := [("error".toList, "Broken pipe (os error 32)".toList)]

/-- The events of answering a command line. -/
def ofWords (env : Environment) (words : List Word) : List Log.Event :=
  match Settings.ofWords env words with
  | .ok settings => settings.journal
  | .error _ => []

/-- The events of writing a reply that nobody reads. -/
def ofLoss : Reply → List Log.Event
  | .outcome _ => [outputLost]
  | .request _ _ => []

end Journal

namespace Invocation

/-- The environment, completed from the file, and the log filter that it asks for. There is neither
if a value of the file cannot be set, and no filter if a directive is torn. -/
def setup? (invocation : Invocation) : Option (Environment × Log.Filter) := do
  let env ← invocation.environment.withFile? invocation.file?
  return (env, ← Log.Filter.ofEnvironment? env)

/-- All events of answering the command line in an environment, logged or not. -/
def events (invocation : Invocation) (env : Environment) : List Log.Event :=
  Journal.ofWords env invocation.words ++
    if invocation.outputClosed then Journal.ofLoss (Reply.of env invocation.words) else []

/-- The command line answered in an environment. -/
def answer (invocation : Invocation) (env : Environment) (filter : Log.Filter) : Completion :=
  let reply := Reply.of env invocation.words
  { exitCode := reply.exitCode
    output := if invocation.outputClosed then [] else reply.output
    log := (invocation.events env).filter filter.allows }

/-- One run. -/
def run (invocation : Invocation) : Completion :=
  match invocation.setup? with
  | some (env, filter) => invocation.answer env filter
  | none => .brokenOff

/-- The exit code does not depend on whether the output is read. -/
theorem exitCode_run_outputClosed (invocation : Invocation) (closed : Bool) :
    ({ invocation with outputClosed := closed }).run.exitCode = invocation.run.exitCode := by
  have h : ({ invocation with outputClosed := closed }).setup? = invocation.setup? := rfl
  unfold run
  rw [h]
  cases invocation.setup? <;> rfl

/-- A page is written free of terminal control, whatever the variables that it shows hold. -/
theorem escape_not_mem_output {invocation : Invocation} {env : Environment} {filter : Log.Filter}
    {request : Request} {page : Text} (hsetup : invocation.setup? = some (env, filter))
    (h : Reply.of env invocation.words = .request request page) :
    '\x1b' ∉ invocation.run.output := by
  simp only [run, hsetup, answer, h]
  split
  · exact List.not_mem_nil
  · exact Terminal.escape_not_mem_written page

theorem exitCode_reply_lt (reply : Reply) : reply.exitCode < 4 := by
  cases reply with
  | outcome o =>
    rw [Reply.exitCode]
    cases o.severity <;> decide
  | request _ _ => exact (by decide : (0 : UInt8) < 4)

/-- A run is broken off exactly if there is no environment or no filter. -/
theorem run_eq_brokenOff_iff (invocation : Invocation) :
    invocation.run = .brokenOff ↔ invocation.setup? = none := by
  rw [run]
  cases h : invocation.setup? with
  | none => simp
  | some pair =>
    obtain ⟨env, filter⟩ := pair
    have hlt := exitCode_reply_lt (Reply.of env invocation.words)
    simp only [reduceCtorEq, iff_false]
    intro he
    have hc : (Reply.of env invocation.words).exitCode = 101 := congrArg Completion.exitCode he
    rw [hc] at hlt
    exact absurd hlt (by decide)

end Invocation

end ThresholdCheck
