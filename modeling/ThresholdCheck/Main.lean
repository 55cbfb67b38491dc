import ThresholdCheck.Program

/-!
# The command

What the program does with the world: it looks up its variables, reads the environment file, writes
the output and the log, and exits with the code of the severity.
-/

namespace ThresholdCheck

namespace Command

/-- Where the environment file stands. -/
def environmentFile : String := ".env"

/-- The text of the environment file, if it can be read. -/
def readEnvironmentFile : IO (Option Text) := do
  try
    return some (← IO.FS.readFile environmentFile).toList
  catch _ => return none

/-- The variables that are looked at, with a file or without. -/
def variableNames (file? : Option Text) : List Text :=
  Log.Filter.variableName :: Setting.all.filterMap Setting.variableName? ++
    (file?.map EnvironmentFile.namesIn).getD []

/-- The variables of the given names that are set. -/
def readEnvironment (names : List Text) : IO Environment := do
  let pairs : List (Text × Text) ← names.filterMapM fun name => do
    return (← IO.getEnv (String.ofList name)).map fun value => (name, value.toList)
  return ⟨pairs⟩

/-- Write to standard output, and tell whether that failed. -/
def writeOutput (t : Text) : IO Bool := do
  let output ← IO.getStdout
  try
    output.putStr (String.ofList t)
    output.flush
    return false
  catch _ => return true

/-- One run with the arguments after the name of the program. -/
def execute (arguments : List String) : IO UInt32 := do
  let file? ← readEnvironmentFile
  let invocation : Invocation :=
    { words := .ofText Help.programName :: arguments.map fun a => .ofText a.toList
      environment := ← readEnvironment (variableNames file?)
      file?
      outputClosed := false }
  let outputClosed ← writeOutput invocation.run.output
  let completion := ({ invocation with outputClosed }).run
  for event in completion.log do
    IO.eprintln (String.ofList event.text)
  return completion.exitCode.toUInt32

end Command

end ThresholdCheck

/-- Checks the measurements of the command line and exits with the code of the severity. -/
def main (arguments : List String) : IO UInt32 := ThresholdCheck.Command.execute arguments
