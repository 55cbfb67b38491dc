import ThresholdCheck.Proofs.Check.Run
import ThresholdCheck.Proofs.Decimal.Number
import ThresholdCheck.Proofs.Range.Alphabet
import ThresholdCheck.Proofs.Text.Trim

/-!
# What a measurement looks like

```
measurement := blanks number blanks
             | blanks label blanks "=" blanks number blanks
```

White space is that of Unicode, and none of it has to be there. A label has none at its ends; it may
have some inside, and equals signs as well, and may be empty. A number is any of the texts that
stand for one. These are the texts that are read as measurements, with the label as it stands there
and the number that the text stands for; all others are refused, and named in full.

## What makes it unambiguous

No number has white space or an equals sign in it. So no equals sign comes after the one that ends
the label, however many the label has, and what is between this one and the end is the number with
white space around it. A text has at most one core without white space at its ends, which is why
label and number are found by trimming.

## Main definitions

* `Measurement.Parts` — a text with its label and its number

## Main results

* `Text.IsNumber.tight`, `Text.IsNumber.equals_not_mem` — what is not in a number
* `Measurement.parts_iff` — label and number of a text
* `Config.readMeasurement_eq_iff_parts` — which texts are read, and as what
-/

namespace ThresholdCheck

variable {t label number : Text}

/-! ### Numbers -/

namespace Text

/-- The code points of white space are not above those of the blank, or are above those of ASCII. -/
theorem not_isBlank_of_isMark {c : Char} (h : Numeral.isMark c) : ¬ isBlank c := by
  have hbounds := lt_of_isInert (isInert_of_isMark h)
  intro hblank
  simp only [isBlank, inRanges, blankRanges, List.any_cons, List.any_nil, Bool.or_false,
    Bool.or_eq_true, Bool.and_eq_true, decide_eq_true_eq] at hblank
  omega

theorem IsNumber.isMark_of_mem (h : t.IsNumber) : ∀ c ∈ t, Numeral.isMark c := by
  obtain ⟨numeral, hread⟩ := isNumber_iff.1 h
  exact Numeral.isMark_of_mem hread

/-- Trimming leaves a number as it is. -/
theorem IsNumber.tight (h : t.IsNumber) : t.Tight := by
  constructor
  · intro c hc
    exact not_isBlank_of_isMark (h.isMark_of_mem c (List.mem_of_mem_head? hc))
  · intro c hc
    exact not_isBlank_of_isMark (h.isMark_of_mem c (List.mem_of_mem_getLast? hc))

theorem IsNumber.equals_not_mem (h : t.IsNumber) : '=' ∉ t :=
  fun hmem => absurd (h.isMark_of_mem '=' hmem) (by decide)

end Text

/-! ### Label and number -/

namespace Measurement

/-- A text with its label and its number. Both can have white space around them. -/
inductive Parts : Text → Text → Text → Prop
  | unlabelled {t number : Text} (hfree : '=' ∉ t) (hpads : Text.Pads number t)
      (hnumber : number.IsNumber) : Parts t [] number
  | labelled {before label after number : Text} (htight : label.Tight)
      (hlabel : Text.Pads label before) (hpads : Text.Pads number after)
      (hnumber : number.IsNumber) : Parts (before ++ '=' :: after) label number

theorem Parts.isNumber (h : Parts t label number) : number.IsNumber := by
  cases h with
  | unlabelled _ _ hnumber => exact hnumber
  | labelled _ _ _ hnumber => exact hnumber

/-- The last equals sign is the one that ends the label, and trimming finds what is padded. -/
theorem Parts.trim_cut (h : Parts t label number) :
    Text.trim (cut t).1 = label ∧ Text.trim (cut t).2 = number := by
  cases h with
  | unlabelled hfree hpads hnumber =>
    rw [cut_of_not_mem hfree]
    exact ⟨rfl, hpads.trim_eq hnumber.tight⟩
  | labelled htight hlabel hpads hnumber =>
    -- the number has no equals sign, and padding adds none
    have hfree := mt (hpads.mem_iff (by decide)).1 hnumber.equals_not_mem
    rw [cut_append hfree]
    exact ⟨hlabel.trim_eq htight, hpads.trim_eq hnumber.tight⟩

/-- What is trimmed was padded. -/
theorem parts_trim_cut (h : (Text.trim (cut t).2).IsNumber) :
    Parts t (Text.trim (cut t).1) (Text.trim (cut t).2) := by
  cases hcut : Text.cutLast '=' t with
  | none =>
    have hfree := Text.cutLast_eq_none_iff.1 hcut
    rw [cut_of_not_mem hfree] at h ⊢
    exact .unlabelled hfree (Text.pads_trim t) h
  | some sides =>
    obtain ⟨before, after⟩ := sides
    obtain ⟨rfl, hfree⟩ := Text.cutLast_eq_some_iff.1 hcut
    rw [cut_append hfree] at h ⊢
    exact .labelled (Text.tight_trim before) (Text.pads_trim before) (Text.pads_trim after) h

theorem parts_iff :
    Parts t label number ↔
      Text.trim (cut t).1 = label ∧ Text.trim (cut t).2 = number ∧ number.IsNumber := by
  constructor
  · intro h
    obtain ⟨hlabel, hnumber⟩ := h.trim_cut
    exact ⟨hlabel, hnumber, h.isNumber⟩
  · rintro ⟨rfl, rfl, hnumber⟩
    exact parts_trim_cut hnumber

/-- A text has one label and one number. -/
theorem Parts.unique {label' number' : Text} (h : Parts t label number)
    (h' : Parts t label' number') : label' = label ∧ number' = number := by
  obtain ⟨hlabel, hnumber⟩ := h.trim_cut
  obtain ⟨hlabel', hnumber'⟩ := h'.trim_cut
  exact ⟨hlabel'.symm.trans hlabel, hnumber'.symm.trans hnumber⟩

theorem read?_eq_some_iff {measurement : Measurement} :
    read? t = some measurement ↔
      ∃ number, Parts t measurement.label number ∧ number.StandsFor measurement.value := by
  simp only [read?, Option.map_eq_some_iff, Binary64.read?_eq_some_iff]
  constructor
  · rintro ⟨value, hvalue, rfl⟩
    exact ⟨_, parts_trim_cut hvalue.isNumber, hvalue⟩
  · rintro ⟨number, hparts, hvalue⟩
    obtain ⟨hlabel, hnumber⟩ := hparts.trim_cut
    exact ⟨measurement.value, hnumber ▸ hvalue, hlabel ▸ rfl⟩

theorem read?_eq_none_iff : read? t = none ↔ ∀ label number, ¬ Parts t label number := by
  rw [Option.eq_none_iff_forall_ne_some]
  constructor
  · intro hnone label number hparts
    obtain ⟨value, hvalue⟩ := hparts.isNumber.exists_standsFor
    exact hnone ⟨label, value⟩ (read?_eq_some_iff.2 ⟨number, hparts, hvalue⟩)
  · intro hnone measurement hread
    obtain ⟨number, hparts, -⟩ := read?_eq_some_iff.1 hread
    exact hnone _ number hparts

end Measurement

namespace Config

/-- **The measurements are the padded numbers, with or without a padded label before them.** Exactly
these texts are read, as the label and the number that stand in them. A text has one label and one
number at most, and for each number there is something it stands for. All other texts are refused
with the text as it was given. -/
theorem readMeasurement_eq_iff_parts (t : Text) :
    (∀ measurement, readMeasurement t = .ok measurement ↔
      ∃ number, Measurement.Parts t measurement.label number ∧
        number.StandsFor measurement.value) ∧
    (∀ label number, Measurement.Parts t label number →
      (∃ value, number.StandsFor value ∧ Binary64.read? number = some value ∧
        readMeasurement t = .ok ⟨label, value⟩) ∧
      ∀ label' number', Measurement.Parts t label' number' →
        label' = label ∧ number' = number) ∧
    ∀ e, readMeasurement t = .error e ↔
      (∀ label number, ¬ Measurement.Parts t label number) ∧ e = .invalidMeasurement t := by
  have hok : ∀ measurement, readMeasurement t = .ok measurement ↔
      ∃ number, Measurement.Parts t measurement.label number ∧
        number.StandsFor measurement.value :=
    fun _ => readMeasurement_eq_ok_iff.trans Measurement.read?_eq_some_iff
  refine ⟨hok, fun label number hparts => ⟨?_, fun _ _ => hparts.unique⟩, fun e => ?_⟩
  · obtain ⟨value, hvalue⟩ := hparts.isNumber.exists_standsFor
    exact ⟨value, hvalue, hvalue.read?_eq, (hok ⟨label, value⟩).2 ⟨number, hparts, hvalue⟩⟩
  · rw [readMeasurement_eq_error_iff, Measurement.read?_eq_none_iff, eq_comm (a := e)]

/-- A label with equals signs and blanks in it, and white space outside of ASCII around it and
around a negative zero. -/
theorem readMeasurement_eq_iff_parts_odd_label :
    let t : Text := " \u3000a == b =\u00a0-.0e+3\u2003".toList
    let label : Text := "a == b".toList
    let number : Text := "-.0e+3".toList
    Measurement.Parts t label number ∧ number.StandsFor (.zero true) ∧
      readMeasurement t = .ok ⟨label, .zero true⟩ := by
  intro t label number
  have hnumeral : Numeral.read? number = some (.decimal true 0 2) := by decide +kernel
  have hparts : Measurement.Parts t label number :=
    Measurement.parts_iff.2 ⟨by decide, by decide, Text.isNumber_iff.2 ⟨_, hnumeral⟩⟩
  have hvalue : Binary64.read? number = some (.zero true) := by decide +kernel
  obtain ⟨value, hstands, hread, hok⟩ := ((readMeasurement_eq_iff_parts t).2.1 _ _ hparts).1
  cases hread.symm.trans hvalue
  exact ⟨hparts, hstands, hok⟩

example : readMeasurement "load=1=".toList = .error (.invalidMeasurement "load=1=".toList) := by
  decide +kernel

end Config

end ThresholdCheck
