import ThresholdCheck.Decimal.Numeral
import ThresholdCheck.Text.CodePoints

/-!
# Measurements

A measurement is written as a number, or as a label, an equals sign and a number. The last equals
sign counts; white space around label and number does not.

## Main definitions

* `Measurement` — a value with its label
* `Measurement.read?` — the measurement of a text

## Main results

* `Measurement.cut_append` — a label and a value without an equals sign are found again
-/

namespace ThresholdCheck

/-- A value with its label, empty if there is none. -/
structure Measurement where
  label : Text
  value : Binary64
deriving DecidableEq

namespace Measurement

/-- The texts of label and value. -/
def cut (t : Text) : Text × Text := (Text.cutLast '=' t).getD ([], t)

/-- The measurement of a text, if its value is a number. -/
def read? (t : Text) : Option Measurement :=
  let (label, value) := cut t
  (Binary64.read? (Text.trim value)).map fun value => ⟨Text.trim label, value⟩

theorem cut_of_not_mem {t : Text} (h : '=' ∉ t) : cut t = ([], t) := by
  simp [cut, Text.cutLast_eq_none_iff.2 h]

theorem cut_append {label value : Text} (h : '=' ∉ value) :
    cut (label ++ '=' :: value) = (label, value) := by
  simp [cut, Text.cutLast_eq_some_iff.2 ⟨rfl, h⟩]

end Measurement

end ThresholdCheck
