import ThresholdCheck.Json.Record
import ThresholdCheck.PerfData

/-!
# Performance data as records

## Main definitions

* `PerfData.toJson` — an item as a JSON value
* `PerfData.decode` — the item of a JSON text
-/

namespace ThresholdCheck

namespace PerfData

/-- The record of an item. -/
def toJson (item : PerfData) : Json :=
  .object
    [ ("label".toList, .string item.label),
      ("value".toList, .number item.value),
      ("uom".toList, .string item.uom),
      ("warning".toList, .optional item.warning),
      ("critical".toList, .optional item.critical),
      ("minimum".toList, .optional item.minimum),
      ("maximum".toList, .optional item.maximum) ]

/-- What a record looks like: the slots may be left out. -/
def shape : Json.Shape where
  name := "PerformanceData".toList
  fields :=
    [ ⟨"label".toList, .text⟩, ⟨"value".toList, .number⟩, ⟨"uom".toList, .text⟩,
      ⟨"warning".toList, .optionalText⟩, ⟨"critical".toList, .optionalText⟩,
      ⟨"minimum".toList, .optionalText⟩, ⟨"maximum".toList, .optionalText⟩ ]

/-- The item of a record's values. -/
def ofRow : Json.Row shape.fields → PerfData
  | (label, value, uom, warning, critical, minimum, maximum, ()) =>
    ⟨label, value, uom, warning, critical, minimum, maximum⟩

/-- The item of a JSON text. -/
def decode (t : Text) : Except Json.ReadError PerfData :=
  Json.decode shape (fun row => .ok (ofRow row)) t

end PerfData

end ThresholdCheck
