import ThresholdCheck.CommandLine.Entry
import ThresholdCheck.Text.Terminal

/-!
# What can be wrong with a command line

## Main definitions

* `UsageError` — the causes
* `UsageError.wording` — the wording, with words as they were given
* `UsageError.message` — the one line of it that is reported

## Main results

* `UsageError.newline_not_mem_message` — every message is one line
* `UsageError.escape_not_mem_message` — and free of terminal control
-/

namespace ThresholdCheck

/-- Why a command line is refused. -/
inductive UsageError where
  /-- There is no such option. -/
  | unknownArgument (shown : Text)
  /-- An option that takes no value was given one. -/
  | unexpectedValue (switch : Switch) (shown : Text)
  /-- An option that takes a value was given none. -/
  | missingValue (setting : Setting)
  /-- An option was given twice. -/
  | repeated (entry : Entry)
  /-- A value is not UTF-8. -/
  | malformedText
deriving DecidableEq

namespace UsageError

/-- The wording of an error. Words of the command line stand in it as they were given, but free of
terminal control. -/
def wording : UsageError → Text
  | unknownArgument shown =>
    "unexpected argument '".toList ++ Terminal.strip shown ++ "' found".toList
  | unexpectedValue switch shown =>
    "unexpected value '".toList ++ Terminal.strip shown ++ "' for '".toList ++ switch.usage ++
      "' found; no more were expected".toList
  | missingValue setting =>
    "a value is required for '".toList ++ setting.usage ++ "' but none was supplied".toList
  | repeated entry =>
    "the argument '".toList ++ entry.usage ++ "' cannot be used multiple times".toList
  | malformedText => "invalid UTF-8 was detected in one or more arguments".toList

/-- What stands before the first newline, without a carriage return right before it. -/
def firstLine (t : Text) : Text :=
  match Text.cutFirst '\n' t with
  | none => t
  | some (line, _) => Text.dropReturn line

/-- The line that is reported: the first one of the wording. -/
def message (e : UsageError) : Text := firstLine e.wording

theorem newline_not_mem_firstLine (t : Text) : '\n' ∉ firstLine t := by
  rw [firstLine]
  split
  · rename_i h
    exact Text.cutFirst_eq_none_iff.1 h
  · rename_i line rest h
    exact fun hmem => (Text.cutFirst_eq_some_iff.1 h).2 ((Text.dropReturn_sublist line).mem hmem)

theorem firstLine_subset (t : Text) : firstLine t ⊆ t := by
  rw [firstLine]
  split
  · exact fun _ h => h
  · rename_i line rest h
    rw [(Text.cutFirst_eq_some_iff.1 h).1]
    exact fun _ hmem => List.mem_append_left _ ((Text.dropReturn_sublist line).mem hmem)

/-- Every message is one line. -/
theorem newline_not_mem_message (e : UsageError) : '\n' ∉ e.message :=
  newline_not_mem_firstLine _

theorem escape_not_mem_usage (entry : Entry) : '\x1b' ∉ entry.usage := by
  cases entry with
  | setting setting => cases setting <;> decide
  | switch switch => cases switch <;> decide

/-- No message holds terminal control, whatever words stand in it. -/
theorem escape_not_mem_message (e : UsageError) : '\x1b' ∉ e.message := by
  refine fun hmem => absurd (firstLine_subset _ hmem) ?_
  cases e with
  | unknownArgument shown =>
    exact Text.not_mem_around (by decide) (Terminal.escape_not_mem_strip shown) (by decide)
  | unexpectedValue switch shown =>
    exact Text.not_mem_around
      (Text.not_mem_around (by decide) (Terminal.escape_not_mem_strip shown) (by decide))
      (escape_not_mem_usage (.switch switch)) (by decide)
  | missingValue setting =>
    exact Text.not_mem_around (by decide) (escape_not_mem_usage (.setting setting)) (by decide)
  | repeated entry =>
    exact Text.not_mem_around (by decide) (escape_not_mem_usage entry) (by decide)
  | malformedText => decide

end UsageError

end ThresholdCheck
