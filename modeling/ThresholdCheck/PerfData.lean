import ThresholdCheck.Decimal.Fixed

/-!
# Performance data

A measured value as it is shown after the status: `'label'=value` and the unit, then the slots for
the two thresholds and the two limits, each after a semicolon and empty if it is not set.

## Main definitions

* `PerfData` — one item
* `PerfData.text` — the item as it is shown
-/

namespace ThresholdCheck

/-- One item of performance data. -/
structure PerfData where
  label : Text
  value : Binary64
  /-- Unit of measure. -/
  uom : Text
  warning : Option Text
  critical : Option Text
  minimum : Option Text
  maximum : Option Text
deriving DecidableEq

namespace PerfData

/-- An item without slots. -/
def bare (label : Text) (value : Binary64) (uom : Text) : PerfData :=
  ⟨label, value, uom, none, none, none, none⟩

/-- A slot with its separator. -/
def slotText (slot : Option Text) : Text := ';' :: slot.getD []

/-- The item as it is shown. -/
def text (item : PerfData) : Text :=
  '\'' :: item.label ++ "'=".toList ++ item.value.valueText ++ item.uom ++
    slotText item.warning ++ slotText item.critical ++
    slotText item.minimum ++ slotText item.maximum

end PerfData

end ThresholdCheck
