import ThresholdCheck.Range.Definition

/-!
# Lists of ranges

Ranges are separated by semicolons; empty pieces are left out. Only a list of one range may leave
its metric out.

## Main definitions

* `RangeList` — the ranges in order
* `RangeList.read` — the list of a text
* `RangeList.select` — the first range of a metric

## Main results

* `RangeList.select_mem`, `RangeList.metric_of_select` — a selected range is in the list and has the
  metric
-/

namespace ThresholdCheck

/-- The ranges of one option, in order. -/
structure RangeList where
  ranges : List AlertRange
deriving DecidableEq

namespace RangeList

instance : Inhabited RangeList := ⟨⟨[]⟩⟩

/-- The first range of a metric; an empty name selects the range without a metric. -/
def select (list : RangeList) (metric : Text) : Option AlertRange :=
  list.ranges.find? fun range => range.metric = metric

/-- How many ranges there are. -/
def length (list : RangeList) : Nat := list.ranges.length

/-- The list of a text, or the first thing wrong with it. -/
def read (t : Text) : Except RangeError RangeList := do
  let ranges ← (Text.segments ';' t).mapM AlertRange.read
  if 1 < ranges.length && ranges.any fun range => range.metric.isEmpty then
    .error .missingMetric
  else return ⟨ranges⟩

theorem select_mem {list : RangeList} {metric : Text} {range : AlertRange}
    (h : list.select metric = some range) : range ∈ list.ranges :=
  List.mem_of_find?_eq_some h

theorem metric_of_select {list : RangeList} {metric : Text} {range : AlertRange}
    (h : list.select metric = some range) : range.metric = metric := by
  simpa using List.find?_some h

theorem read_nil : read [] = .ok ⟨[]⟩ := rfl

end RangeList

end ThresholdCheck
