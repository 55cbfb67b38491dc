import ThresholdCheck.Text.Quoted

/-!
# What can be wrong with a range

## Main definitions

* `RangeError` — the causes
* `RangeError.message` — their wording

## Main results

* `RangeError.newline_not_mem_message` — every message is one line
-/

namespace ThresholdCheck

/-- Why a text is not a range, or not a list of ranges. -/
inductive RangeError where
  /-- Nothing stands before the comma. -/
  | emptyMetric
  /-- Nothing stands after the comma, or a second comma does. -/
  | invalidMetric
  /-- One of several ranges names no metric. -/
  | missingMetric
  /-- The definition holds no bound. -/
  | emptyRange
  /-- The definition holds more than two bounds. -/
  | tooManyValues
  /-- The lower bound lies above the upper one. -/
  | reversedBounds
  /-- A bound is empty. -/
  | emptyValue
  /-- A bound is not the text of a number. -/
  | notANumber (bound : Text)
  /-- A bound is a decimal beyond the largest number. -/
  | outOfRange (bound : Text)
deriving DecidableEq

namespace RangeError

/-- The wording of an error. -/
def message : RangeError → Text
  | emptyMetric => "empty metric".toList
  | invalidMetric => "invalid metric".toList
  | missingMetric => "missing metric".toList
  | emptyRange => "empty range".toList
  | tooManyValues => "invalid range: too many values".toList
  | reversedBounds => "invalid range: start greater than end".toList
  | emptyValue => "empty value".toList
  | notANumber bound => "parsing ".toList ++ Text.quoted bound ++ ": invalid syntax".toList
  | outOfRange bound => "parsing ".toList ++ Text.quoted bound ++ ": value out of range".toList

/-- Every message is one line. -/
theorem newline_not_mem_message (e : RangeError) : '\n' ∉ e.message := by
  cases e with
  | notANumber bound => exact Text.newline_not_mem_around (by decide) (by decide) bound
  | outOfRange bound => exact Text.newline_not_mem_around (by decide) (by decide) bound
  | _ => decide

end RangeError

end ThresholdCheck
