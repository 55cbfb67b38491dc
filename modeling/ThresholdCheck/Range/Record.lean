import ThresholdCheck.Json.Record
import ThresholdCheck.Range.List

/-!
# Ranges as records

A record holds a range with its bounds as texts of six fraction digits, since JSON has no
infinities. Its `inside` field says that a value is expected inside the interval. Reading takes the
bounds from the definition, which has them in full; the fields must agree with it.

## Main definitions

* `AlertRange.toJson`, `RangeList.toJson` — ranges as JSON values
* `AlertRange.dump`, `RangeList.dump` — the same with fields in the order of their names
* `AlertRange.ofRecord` — the range of a record's fields
* `AlertRange.decode` — the range of a JSON text
-/

namespace ThresholdCheck

namespace AlertRange

/-! ### Writing -/

/-- Whether values are expected inside the interval. -/
def expectsInside (range : AlertRange) : Bool := range.zone.sense = .outside

/-- The fields of the record. -/
def fields (range : AlertRange) : List (Text × Json) :=
  [ ("definition".toList, .string range.definition),
    ("metric".toList, .string range.metric),
    ("inside".toList, .bool range.expectsInside),
    ("start".toList, .string range.zone.lower.fixedText),
    ("end".toList, .string range.zone.upper.fixedText) ]

/-- The record of a range. -/
def toJson (range : AlertRange) : Json := .object range.fields

/-- The record with its fields in the order of their names. -/
def dump (range : AlertRange) : Json := .object (Json.sortFields range.fields)

/-! ### Reading -/

/-- What a record looks like. -/
def shape : Json.Shape where
  name := "RangeRecord".toList
  fields :=
    [ ⟨"definition".toList, .text⟩, ⟨"metric".toList, .text⟩, ⟨"inside".toList, .flag⟩,
      ⟨"start".toList, .text⟩, ⟨"end".toList, .text⟩ ]

/-- A bound of a record has to read as a number with the same six digits as the bound of the
definition. -/
def checkBound (name written : Text) (bound : Binary64) (definition : Text) : Except Text Unit :=
  match Binary64.read? written with
  | none => .error (RangeError.notANumber written).message
  | some value =>
    if value.fixedText = bound.fixedText then .ok ()
    else
      .error (name ++ ' ' :: Text.quoted written ++ " does not match definition ".toList ++
        Text.quoted definition)

/-- The range of a record. -/
def ofRecord (definition metric : Text) (inside : Bool) (start stop : Text) :
    Except Text AlertRange :=
  match Zone.read definition with
  | .error e => .error e.message
  | .ok zone => do
    let range : AlertRange := ⟨metric, definition, zone⟩
    if inside = range.expectsInside then
      checkBound "start".toList start zone.lower definition
      checkBound "end".toList stop zone.upper definition
      return range
    else
      .error ("inside flag does not match definition ".toList ++ Text.quoted definition)

/-- The range of a record's values. -/
def ofRow : Json.Row shape.fields → Except Text AlertRange
  | (definition, metric, inside, start, stop, ()) => ofRecord definition metric inside start stop

/-- The range of a JSON text. -/
def decode (t : Text) : Except Json.ReadError AlertRange := Json.decode shape ofRow t

end AlertRange

/-- The records of a list. -/
def RangeList.toJson (list : RangeList) : Json := .array (list.ranges.map AlertRange.toJson)

/-- The records of a list, with fields in the order of their names. -/
def RangeList.dump (list : RangeList) : Json := .array (list.ranges.map AlertRange.dump)

end ThresholdCheck
