import ThresholdCheck.CommandLine.Arguments
import ThresholdCheck.Text.Terminal

/-!
# The help text

The summary has one line for each argument; the manual gives each one a paragraph. Both show what
the environment variables hold. The names of options are set in bold; without a terminal all control
is taken out again, whether it comes from here or from a variable.

## Main definitions

* `Help.Topic` — what is said about one argument
* `Help.summary`, `Help.manual`, `Help.version` — the texts
* `Request.page` — the styled text that a request asks for
* `Request.text` — the same without terminal control
-/

namespace ThresholdCheck

namespace Help

/-- The name of the program. -/
def programName : Text := "check_range".toList

/-- What is said about one argument. -/
structure Topic where
  usage : Text
  /-- How many columns the usage takes. -/
  width : Nat
  about : Text
  /-- Remarks in brackets. -/
  remarks : List Text

/-! ### Topics -/

/-- What a setting is for. -/
def aboutSetting : Setting → Text
  | .warning => "Warning ranges, e.g. `10:20` or `load1,~:4;load5,~:3`".toList
  | .critical => "Critical ranges, same syntax as `--warning`".toList
  | .uom => "Unit of measure appended to every performance data value".toList
  | .minimum => "Minimum value reported in the performance data".toList
  | .maximum => "Maximum value reported in the performance data".toList
  | .message => "Text shown after the severity on the status line".toList

/-- What a switch is for; the help switch points to the other help text. -/
def aboutSwitch (help : Text) : Switch → Text
  | .json => "Print the parsed thresholds as JSON instead of checking".toList
  | .help => "Print help ".toList ++ help
  | .version => "Print version".toList

/-- A text in bold. -/
def bold (t : Text) : Text := "\x1b[1m".toList ++ t ++ "\x1b[0m".toList

/-- The short name of an option with its hyphen and a comma, or blanks in their place. -/
def shortUsage (shortName : Option Char) : Text :=
  match shortName with
  | some c => bold ['-', c] ++ ", ".toList
  | none => "    ".toList

/-- The name of a value in angle brackets. -/
def valueUsage (name : Text) : Text := " <".toList ++ name ++ ['>']

/-- What an environment variable holds, as far as it can be shown. -/
def variableRemark (env : Environment) (name : Text) : Text :=
  "[env: ".toList ++ name ++ '=' :: ((env.get? name).map Word.shown).getD [] ++ [']']

/-- A default. -/
def defaultRemark (value : Text) : Text :=
  "[default: ".toList ++ Text.quoted value ++ [']']

/-- A setting. -/
def settingTopic (env : Environment) (setting : Setting) : Topic where
  usage :=
    shortUsage setting.shortName? ++ bold ("--".toList ++ setting.longName) ++
      valueUsage setting.valueName
  width := 4 + setting.usage.length
  about := aboutSetting setting
  remarks :=
    (setting.variableName?.map (variableRemark env)).toList ++
      (setting.default?.map defaultRemark).toList

/-- A switch. -/
def switchTopic (help : Text) (switch : Switch) : Topic where
  usage := shortUsage switch.shortName? ++ bold switch.usage
  width := 4 + switch.usage.length
  about := aboutSwitch help switch
  remarks := []

/-- The options. -/
def optionTopics (env : Environment) (help : Text) : List Topic :=
  Setting.all.map (settingTopic env) ++ Switch.all.map (switchTopic help)

/-- The measurements. -/
def measurementTopic : Topic where
  usage := "[MEASUREMENT]...".toList
  width := 16
  about := "Values to check, `[<label>=]<value>`".toList
  remarks := []

/-! ### Layout -/

/-- Blanks. -/
def blanks (n : Nat) : Text := List.replicate n ' '

/-- A text with blanks after each newline. -/
def indentLines (n : Nat) (t : Text) : Text :=
  t.flatMap fun c => if c = '\n' then '\n' :: blanks n else [c]

/-- A topic on one line, in two columns. -/
def Topic.line (width : Nat) (topic : Topic) : Text :=
  "  ".toList ++ topic.usage ++ blanks (width - topic.width) ++ "  ".toList ++
    indentLines (width + 4) (Text.joinWith [' '] (topic.about :: topic.remarks)) ++ ['\n']

/-- How far the paragraphs of the manual are indented. -/
def manualIndent : Nat := 10

/-- A topic as a paragraph. -/
def Topic.paragraph (topic : Topic) : Text :=
  let body :=
    if topic.remarks.isEmpty then topic.about
    else topic.about ++ "\n\n".toList ++ Text.joinWith ['\n'] topic.remarks
  "  ".toList ++ topic.usage ++ '\n' :: blanks manualIndent ++
    indentLines manualIndent body ++ ['\n']

/-- The topics on lines, the second column at one place. -/
def columns (topics : List Topic) : Text :=
  let width := (topics.map Topic.width).foldl max 0
  topics.flatMap fun topic => topic.line width

/-- The topics as paragraphs. -/
def paragraphs (topics : List Topic) : Text := Text.joinWith ['\n'] (topics.map Topic.paragraph)

/-! ### Texts -/

/-- How the program is called. -/
def usageLine (name : Text) : Text :=
  "Usage: ".toList ++ bold name ++ " [OPTIONS] [MEASUREMENT]...\n".toList

/-- What the program does. -/
def purpose : Text :=
  "Evaluate measurements against Nagios-style warning and critical ranges".toList

/-- What the manual says on measurements. -/
def measurementNote : Text :=
  ("Each MEASUREMENT is `[<label>=]<value>`. The label selects the range of the same metric " ++
    "name; an unlabelled value uses the range without a metric prefix.\n").toList

/-- The parts of a help text, with empty lines between them. -/
def page (about : List Text) (name arguments options : Text) : Text :=
  Text.joinWith ['\n']
    (about ++
      [ usageLine name, "Arguments:\n".toList ++ arguments, "Options:\n".toList ++ options ])

/-- The short help text. -/
def summary (env : Environment) (name : Text) : Text :=
  page [purpose ++ ['\n']] name (columns [measurementTopic])
    (columns (optionTopics env "(see more with '--help')".toList))

/-- The long help text. -/
def manual (env : Environment) (name : Text) : Text :=
  page [purpose ++ ".\n".toList, measurementNote] name (paragraphs [measurementTopic])
    (paragraphs (optionTopics env "(see a summary with '-h')".toList))

/-- Name and version. -/
def version : Text := programName ++ " 0.1.0\n".toList

end Help

/-- The name under which the program was called: the last one of its path, if there is one. -/
def programNameOf (words : List Word) : Text :=
  (words.head?.bind Word.fileName?).getD Help.programName

/-- The styled text that a request asks for. -/
def Request.page (env : Environment) (name : Text) : Request → Text
  | .summary => Help.summary env name
  | .manual => Help.manual env name
  | .version => Help.version

/-- The text that a request asks for, free of terminal control. -/
def Request.text (env : Environment) (name : Text) (request : Request) : Text :=
  Terminal.strip (request.page env name)

end ThresholdCheck
