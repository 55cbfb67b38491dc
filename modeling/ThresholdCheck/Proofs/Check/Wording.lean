import ThresholdCheck.Check.Config

/-!
# What is shown of an error

A monitoring system shows the wording of an error as it is, so it is spelled out here apart from the
function that makes it. The cause of a refused range goes to the line unchanged. The two wordings
that repeat a text of the user show it quoted, which keeps them on one line.

## Main definitions

* `RangeError.Spelled`, `CheckError.Spelled` — an error and its wording

## Main results

* `RangeError.spelled_iff`, `CheckError.spelled_iff` — every error has one wording
-/

namespace ThresholdCheck

/-- Why a range is refused, in words. -/
inductive RangeError.Spelled : RangeError → Text → Prop
  | emptyMetric : Spelled .emptyMetric "empty metric".toList
  | invalidMetric : Spelled .invalidMetric "invalid metric".toList
  | missingMetric : Spelled .missingMetric "missing metric".toList
  | emptyRange : Spelled .emptyRange "empty range".toList
  | tooManyValues : Spelled .tooManyValues "invalid range: too many values".toList
  | reversedBounds : Spelled .reversedBounds "invalid range: start greater than end".toList
  | emptyValue : Spelled .emptyValue "empty value".toList
  | notANumber (bound : Text) :
      Spelled (.notANumber bound)
        ("parsing ".toList ++ Text.quoted bound ++ ": invalid syntax".toList)
  | outOfRange (bound : Text) :
      Spelled (.outOfRange bound)
        ("parsing ".toList ++ Text.quoted bound ++ ": value out of range".toList)

theorem RangeError.spelled_iff {e : RangeError} {t : Text} : e.Spelled t ↔ t = e.message := by
  constructor
  · intro h
    cases h <;> rfl
  · rintro rfl
    cases e <;> constructor

/-- Why settings are refused, in words. -/
inductive CheckError.Spelled : CheckError → Text → Prop
  | range {cause : RangeError} {t : Text} (h : cause.Spelled t) : Spelled (.range cause) t
  | invalidMeasurement (measurement : Text) :
      Spelled (.invalidMeasurement measurement)
        ("invalid measurement ".toList ++ Text.quoted measurement ++
          ": expected [<label>=]<value>".toList)
  | noMeasurement : Spelled .noMeasurement "no measurement given".toList

theorem CheckError.spelled_iff {e : CheckError} {t : Text} : e.Spelled t ↔ t = e.message := by
  constructor
  · intro h
    cases h with
    | range h => exact RangeError.spelled_iff.1 h
    | invalidMeasurement => rfl
    | noMeasurement => rfl
  · rintro rfl
    cases e with
    | range cause => exact .range (RangeError.spelled_iff.2 rfl)
    | invalidMeasurement measurement => exact .invalidMeasurement measurement
    | noMeasurement => exact .noMeasurement

end ThresholdCheck
