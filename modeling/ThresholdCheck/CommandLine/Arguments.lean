import ThresholdCheck.Check.Config
import ThresholdCheck.CommandLine.UsageError
import ThresholdCheck.CommandLine.Word
import ThresholdCheck.Environment

/-!
# Reading the command line

Words are read from left to right. A value that stands in a word of its own, and measurements, are
held back until the next option comes or the words end; only then are they checked, so that an
unknown option is reported before a fault in the words just before it.

## Main definitions

* `Request` — what can be asked for instead of a check
* `Arguments` — what was given
* `Reading` — what was given, and what is held back
* `Arguments.read` — the arguments of some words
* `Arguments.settings` — with environment and defaults for what was not given
* `Settings.ofWords` — the settings of a whole command line
-/

namespace ThresholdCheck

/-- What can be asked for instead of a check. -/
inductive Request where
  /-- The short help text. -/
  | summary
  /-- The long help text. -/
  | manual
  | version
deriving DecidableEq

/-- Why reading ends early. -/
inductive Halt where
  | error (e : UsageError)
  | request (request : Request)
deriving DecidableEq

/-- What was given on the command line. -/
structure Arguments where
  values : List (Setting × Text)
  /-- Show the ranges instead of checking. -/
  dump : Bool
  measurements : List Text
deriving DecidableEq

/-- What is held back. -/
inductive Pending where
  | nothing
  /-- An option whose value comes next. -/
  | awaiting (setting : Setting)
  /-- An option with its value. -/
  | supplied (setting : Setting) (value : Word)
  /-- Measurements, in order. -/
  | measurements (words : List Word)
deriving DecidableEq

/-- What was given so far, and what is held back. -/
structure Reading where
  arguments : Arguments
  pending : Pending
deriving DecidableEq

namespace Arguments

/-- Nothing was given. -/
def empty : Arguments := ⟨[], false, []⟩

/-- The value given for a setting. -/
def value? (arguments : Arguments) (setting : Setting) : Option Text :=
  arguments.values.lookup setting

/-- Take the value of an option, which may be given once. -/
def put (arguments : Arguments) (setting : Setting) (value : Word) :
    Except UsageError Arguments :=
  if (arguments.value? setting).isSome then .error (.repeated (.setting setting))
  else
    match value.text? with
    | some t => .ok { arguments with values := arguments.values ++ [(setting, t)] }
    | none => .error .malformedText

/-- Take measurements. -/
def addMeasurements (arguments : Arguments) (words : List Word) : Except UsageError Arguments :=
  match words.mapM Word.text? with
  | some texts => .ok { arguments with measurements := arguments.measurements ++ texts }
  | none => .error .malformedText

/-- Do what a switch asks for. The short name of the help switch asks for the summary. -/
def trigger (arguments : Arguments) (switch : Switch) (help : Request) : Except Halt Arguments :=
  match switch with
  | .json =>
    if arguments.dump then .error (.error (.repeated (.switch .json)))
    else .ok { arguments with dump := true }
  | .help => .error (.request help)
  | .version => .error (.request .version)

end Arguments

namespace Reading

/-- Take what is held back. -/
def settle (reading : Reading) : Except UsageError Arguments :=
  match reading.pending with
  | .nothing => .ok reading.arguments
  | .awaiting setting => .error (.missingValue setting)
  | .supplied setting value => reading.arguments.put setting value
  | .measurements words => reading.arguments.addMeasurements words

/-- As `settle`, as a step of reading. -/
def settled (reading : Reading) : Except Halt Arguments := reading.settle.mapError .error

/-- Whether the next word is a value even if it starts with a hyphen. -/
def acceptsHyphen (reading : Reading) : Bool :=
  match reading.pending with
  | .awaiting setting => setting.acceptsHyphen
  | _ => false

/-- A word that is a measurement. -/
def measure (reading : Reading) (word : Word) : Except Halt Reading :=
  match reading.pending with
  | .measurements words => .ok { reading with pending := .measurements (words ++ [word]) }
  | _ => return ⟨← reading.settled, .measurements [word]⟩

/-- A word that is no option: the value of the option before it, or a measurement. -/
def place (reading : Reading) (word : Word) : Except Halt Reading :=
  match reading.pending with
  | .awaiting setting => .ok { reading with pending := .supplied setting word }
  | _ => reading.measure word

/-- An option with the value it carries in its own word, if it does. -/
def setting (reading : Reading) (setting : Setting) (value : Option Word) :
    Except Halt Reading := do
  let arguments ← reading.settled
  match value with
  | none => return ⟨arguments, .awaiting setting⟩
  | some word => return ⟨← (arguments.put setting word).mapError .error, .nothing⟩

/-- A switch. -/
def switch (reading : Reading) (switch : Switch) (help : Request) : Except Halt Reading := do
  let arguments ← reading.settled
  return ⟨← arguments.trigger switch help, .nothing⟩

/-! ### Options -/

/-- A word that does not exist among the options. -/
def unknown (shown : Text) : Except Halt Reading := .error (.error (.unknownArgument shown))

/-- Cut a long option at its first equals sign: the name, and the value if there is a sign. The
name is a word, since it may be malformed. -/
def cutLong (body : Word) : Word × Option Word :=
  match Text.cutFirst '=' body.text with
  | some (name, value) => (.ofText name, some ⟨value, body.tail⟩)
  | none => (⟨body.text, body.tail.takeWhile (· ≠ 0x3d)⟩, none)

/-- A long option, given what follows its two hyphens. -/
def long (reading : Reading) (body : Word) : Except Halt Reading :=
  let (name, value) := cutLong body
  match name.text?.bind Entry.ofLong?, value with
  | none, _ => unknown ("--".toList ++ name.shown)
  | some (.setting setting), value => reading.setting setting value
  | some (.switch switch), some value => .error (.error (.unexpectedValue switch value.shown))
  | some (.switch switch), none => reading.switch switch .manual

/-- The value of a short option in the same word, after an equals sign or at once. -/
def attached (rest : Word) : Option Word :=
  if rest.isEmpty then none
  else
    match rest.text with
    | '=' :: text => some ⟨text, rest.tail⟩
    | _ => some rest

/-- A short option, given what follows its hyphen. -/
def short (reading : Reading) (body : Word) : Except Halt Reading :=
  match body.text with
  | [] => unknown ('-' :: body.shown)
  | c :: rest =>
    match Entry.ofShort? c with
    | none => unknown ['-', c]
    | some (.setting setting) => reading.setting setting (attached ⟨rest, body.tail⟩)
    | some (.switch switch) => reading.switch switch .summary

/-- One word. A hyphen alone and a negative number are no options. -/
def step (reading : Reading) (word : Word) : Except Halt Reading :=
  if reading.acceptsHyphen then reading.place word
  else
    match word.text with
    | '-' :: '-' :: name => reading.long ⟨name, word.tail⟩
    | '-' :: name =>
      let body : Word := ⟨name, word.tail⟩
      if body.isEmpty || body.isNumeric then reading.place word else reading.short body
    | _ => reading.place word

/-- The word after which all words are measurements. -/
def terminator : Word := .ofText "--".toList

/-- All words. -/
def words (reading : Reading) : List Word → Except Halt Reading
  | [] => .ok reading
  | word :: rest =>
    if word = terminator && !reading.acceptsHyphen then rest.foldlM measure reading
    else do words (← reading.step word) rest

end Reading

namespace Arguments

/-- The arguments of some words, the name of the program left out. -/
def read (words : List Word) : Except Halt Arguments := do
  (← Reading.words ⟨empty, .nothing⟩ words).settled

/-- The value for a setting: from the command line, else from the environment, else its default. A
variable is not looked at if the command line gives a value; one that is has to be UTF-8. -/
def resolve? (arguments : Arguments) (env : Environment) (setting : Setting) :
    Except UsageError (Option Text) :=
  match arguments.value? setting, setting.variableName?.bind env.get? with
  | some t, _ => .ok (some t)
  | none, none => .ok setting.default?
  | none, some word =>
    match word.text? with
    | some t => .ok (some t)
    | none => .error .malformedText

/-- As `resolve?`, for settings that have a default. -/
def resolve (arguments : Arguments) (env : Environment) (setting : Setting) :
    Except UsageError Text :=
  (arguments.resolve? env setting).map fun value => value.getD []

/-- The settings of a check. -/
def settings (arguments : Arguments) (env : Environment) : Except UsageError Settings := do
  return {
    warning := ← arguments.resolve env .warning
    critical := ← arguments.resolve env .critical
    uom := ← arguments.resolve env .uom
    minimum := ← arguments.resolve? env .minimum
    maximum := ← arguments.resolve? env .maximum
    message := ← arguments.resolve env .message
    dump := arguments.dump
    measurements := arguments.measurements }

end Arguments

/-- The settings of a whole command line, which starts with the name of the program. The environment
is looked at when all words have been read. -/
def Settings.ofWords (env : Environment) (words : List Word) : Except Halt Settings := do
  let arguments ← Arguments.read words.tail
  (arguments.settings env).mapError .error

end ThresholdCheck
