import ThresholdCheck.Decimal.Numeral
import ThresholdCheck.Range.Basic
import ThresholdCheck.Range.Error

/-!
# Reading ranges

```
range      := [metric ","] definition
definition := ["@"] bounds
bounds     := end | start ":" | ":" end | start ":" end
bound      := "~" | number
```

A lone end has the start zero; a start or an end that is left out is the infinity of its side, and
`~` is negative infinity. Further colons at any place change nothing.

## Main definitions

* `readBound` — one bound
* `readBounds` — the two ends of an interval
* `Zone.read` — a definition
* `AlertRange.read` — a range

## Main results

* `cutMetric_eq_ok` — a metric without a comma is found again
-/

namespace ThresholdCheck

/-- One bound. A decimal beyond the largest number is refused; an infinity has to be spelled. -/
def readBound (t : Text) : Except RangeError Binary64 :=
  if t.isEmpty then .error .emptyValue
  else if t = ['~'] then .ok .negInf
  else
    match Numeral.read? t with
    | none => .error (.notANumber t)
    | some (.decimal negative coefficient scale) =>
      let value := Binary64.nearestDecimal negative coefficient scale
      if value.isInfinite then .error (.outOfRange t) else .ok value
    | some numeral => .ok numeral.value

/-- The two ends of an interval. -/
def readBounds (t : Text) : Except RangeError (Binary64 × Binary64) :=
  if ':' ∈ t then
    match Text.segments ':' t with
    | [] => .error .emptyRange
    | [bound] =>
      if t.getLast? = some ':' then do
        let lower ← readBound bound
        return (lower, .posInf)
      else do
        let upper ← readBound bound
        return (.negInf, upper)
    | [start, stop] => do
      let lower ← readBound start
      let upper ← readBound stop
      return (lower, upper)
    | _ => .error .tooManyValues
  else do
    let upper ← readBound t
    return (.zero false, upper)

/-- The alerting side that a definition asks for, and its bounds. -/
def cutSense : Text → Sense × Text
  | '@' :: bounds => (.inside, bounds)
  | bounds => (.outside, bounds)

/-- The zone of a definition. -/
def Zone.read (definition : Text) : Except RangeError Zone :=
  let (sense, bounds) := cutSense definition
  if bounds.isEmpty then .error .emptyRange
  else do
    let (lower, upper) ← readBounds bounds
    if upper.lt lower then .error .reversedBounds else .ok ⟨sense, lower, upper⟩

/-- The metric, empty if there is none, and the definition. -/
def cutMetric (t : Text) : Except RangeError (Text × Text) :=
  match Text.cutFirst ',' t with
  | none => .ok ([], t)
  | some (metric, definition) =>
    if metric.isEmpty then .error .emptyMetric
    else if definition.isEmpty ∨ ',' ∈ definition then .error .invalidMetric
    else .ok (metric, definition)

/-- One range. -/
def AlertRange.read (t : Text) : Except RangeError AlertRange := do
  let (metric, definition) ← cutMetric t
  let zone ← Zone.read definition
  return ⟨metric, definition, zone⟩

theorem cutMetric_of_not_mem {t : Text} (h : ',' ∉ t) : cutMetric t = .ok ([], t) := by
  simp [cutMetric, Text.cutFirst_eq_none_iff.2 h]

/-- What follows the comma of an accepted range is its definition, to the letter. -/
theorem cutMetric_eq_ok {t metric definition : Text}
    (h : cutMetric t = .ok (metric, definition)) :
    t = (if metric.isEmpty then definition else metric ++ ',' :: definition) ∧
      ',' ∉ metric ∧ ',' ∉ definition := by
  rw [cutMetric] at h
  split at h
  · rename_i hc
    simp only [Except.ok.injEq, Prod.mk.injEq] at h
    obtain ⟨rfl, rfl⟩ := h
    exact ⟨rfl, by simp, Text.cutFirst_eq_none_iff.1 hc⟩
  · rename_i m d hc
    split at h
    · simp at h
    · split at h
      · simp at h
      · rename_i hm hd
        simp only [Except.ok.injEq, Prod.mk.injEq] at h
        obtain ⟨rfl, rfl⟩ := h
        have := Text.cutFirst_eq_some_iff.1 hc
        simp only [not_or] at hd
        exact ⟨by simp [hm, this.1], this.2, hd.2⟩

end ThresholdCheck
