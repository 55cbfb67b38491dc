import ThresholdCheck.Proofs.Range.Lists
import ThresholdCheck.Proofs.Verdict

/-!
# Verdicts told by what they report

A value is held against the bounds of the selected ranges, and whoever looks at the verdict sees
nothing of a range but its definition. That is enough. A definition is read again, without a metric,
as the same zone it was read as behind its metric; so the value alerts on the reported definition if
it alerts on the range, and the value and the two reported definitions tell the severity.

## Main definitions

* `Verdict.SlotAlerts` — a value alerts on the definition in a slot
* `Verdict.Annotates` — an item with the reported definitions in its slots

## Main results

* `AlertRange.read_definition` — a definition is read again
* `RangeList.slotAlerts_iff` — a value alerts on a reported definition as on the range it is of
* `Verdict.of_explained` — what a verdict reports explains it
-/

namespace ThresholdCheck

/-! ### Definitions that are read again -/

/-- The definition of a range that was read is a range of its own, without the metric. -/
theorem AlertRange.read_definition {t : Text} {range : AlertRange}
    (h : AlertRange.read t = .ok range) :
    AlertRange.read range.definition = .ok ⟨[], range.definition, range.zone⟩ := by
  have hzone := zone_read_of_read h
  exact read_eq_ok_iff.2 ⟨cutMetric_of_not_mem (Zone.comma_not_mem_of_read hzone), hzone⟩

namespace Verdict

/-- A definition stands in the slot, and the value alerts on the range that it is read as. -/
def SlotAlerts (slot : Option Text) (value : Binary64) : Prop :=
  ∃ definition range, slot = some definition ∧ AlertRange.read definition = .ok range ∧
    range.alerts value

end Verdict

namespace RangeList

variable {t : Text} {list : RangeList} {metric : Text} {value : Binary64} {slot : Option Text}

/-- A reported definition is read again as the zone of the first range of the metric. -/
theorem read_definition_of_isFirst {range : AlertRange} (h : RangeList.read t = .ok list)
    (hfirst : list.IsFirst metric range) :
    AlertRange.read range.definition = .ok ⟨[], range.definition, range.zone⟩ := by
  obtain ⟨_, -, hread⟩ := exists_read_of_mem h (select_mem (select_eq_some_iff.2 hfirst))
  exact AlertRange.read_definition hread

/-- The first range of a metric is the only one. -/
theorem IsFirst.unique {range range' : AlertRange} (h : list.IsFirst metric range)
    (h' : list.IsFirst metric range') : range = range' :=
  Option.some.inj ((select_eq_some_iff.2 h).symm.trans (select_eq_some_iff.2 h'))

theorem exists_read_of_slot {definition : Text} (h : RangeList.read t = .ok list)
    (hslot : list.Slot metric slot) (hdefinition : slot = some definition) :
    ∃ range, list.IsFirst metric range ∧
      AlertRange.read definition = .ok ⟨[], definition, range.zone⟩ := by
  cases hslot with
  | definition hfirst =>
    obtain rfl := Option.some.inj hdefinition
    exact ⟨_, hfirst, read_definition_of_isFirst h hfirst⟩
  | empty => cases hdefinition

/-- A value alerts on what is reported for a metric if it alerts on the range of the metric. -/
theorem slotAlerts_iff (h : RangeList.read t = .ok list) (hslot : list.Slot metric slot) :
    Verdict.SlotAlerts slot value ↔ list.AlertsAt metric value := by
  constructor
  · rintro ⟨definition, other, hdefinition, hother, halerts⟩
    obtain ⟨range, hfirst, hread⟩ := exists_read_of_slot h hslot hdefinition
    obtain rfl := Except.ok.inj (hread.symm.trans hother)
    exact ⟨range, hfirst, halerts⟩
  · rintro ⟨range, hfirst, halerts⟩
    cases hslot with
    | definition hother =>
      obtain rfl := hfirst.unique hother
      exact ⟨_, _, rfl, read_definition_of_isFirst h hfirst, halerts⟩
    | empty hsilent =>
      rw [← select_eq_none_iff, select_eq_some_iff.2 hfirst] at hsilent
      cases hsilent

end RangeList

/-! ### Verdicts -/

namespace Verdict

variable {w w' c c' : Text} {warning warning' critical critical' : RangeList} {metric : Text}
  {value : Binary64}

theorem severity_of_eq_ok_iff :
    (of warning critical value metric).severity = .ok ↔
      ¬ critical.AlertsAt metric value ∧ ¬ warning.AlertsAt metric value := by
  have hcritical : (of warning critical value metric).severity = .critical ↔ _ :=
    severity_of_eq_critical_iff
  have hwarning : (of warning critical value metric).severity = .warning ↔ _ :=
    severity_of_eq_warning_iff
  have hknown := severity_of_ne_unknown warning critical value metric
  cases hseverity : (of warning critical value metric).severity <;> simp_all

/-- The item, with each reported definition in its slot; a slot for which nothing is reported stays
as it is, and so does everything else. -/
structure Annotates (verdict : Verdict) (item annotated : PerfData) : Prop where
  label : annotated.label = item.label
  value : annotated.value = item.value
  uom : annotated.uom = item.uom
  minimum : annotated.minimum = item.minimum
  maximum : annotated.maximum = item.maximum
  warning : ∀ definition, verdict.warning = some definition → annotated.warning = some definition
  critical : ∀ definition, verdict.critical = some definition →
    annotated.critical = some definition
  warning_none : verdict.warning = none → annotated.warning = item.warning
  critical_none : verdict.critical = none → annotated.critical = item.critical

theorem annotates_annotate (verdict : Verdict) (item : PerfData) :
    verdict.Annotates item (verdict.annotate item) := by
  refine ⟨rfl, rfl, rfl, rfl, rfl, ?_, ?_, ?_, ?_⟩
  · intro definition h
    simp [annotate, h]
  · intro definition h
    simp [annotate, h]
  · intro h
    simp [annotate, h]
  · intro h
    simp [annotate, h]

/-- What a verdict reports explains it: each reported definition is a range without a metric, and
these ranges alone tell the severity of the value. -/
structure Explains (verdict : Verdict) (value : Binary64) : Prop where
  definitions : ∀ definition,
    verdict.warning = some definition ∨ verdict.critical = some definition →
      ∃ zone, AlertRange.read definition = .ok ⟨[], definition, zone⟩
  critical_iff : verdict.severity = .critical ↔ SlotAlerts verdict.critical value
  warning_iff : verdict.severity = .warning ↔
    ¬ SlotAlerts verdict.critical value ∧ SlotAlerts verdict.warning value
  ok_iff : verdict.severity = .ok ↔
    ¬ SlotAlerts verdict.critical value ∧ ¬ SlotAlerts verdict.warning value

theorem explains_of (hwarning : RangeList.read w = .ok warning)
    (hcritical : RangeList.read c = .ok critical) (value : Binary64) (metric : Text) :
    (of warning critical value metric).Explains value := by
  have hwarningSlot : warning.Slot metric (of warning critical value metric).warning :=
    warning.slot_select metric
  have hcriticalSlot : critical.Slot metric (of warning critical value metric).critical :=
    critical.slot_select metric
  refine ⟨?_, ?_, ?_, ?_⟩
  · rintro definition (hdefinition | hdefinition)
    · obtain ⟨range, -, hread⟩ := RangeList.exists_read_of_slot hwarning hwarningSlot hdefinition
      exact ⟨range.zone, hread⟩
    · obtain ⟨range, -, hread⟩ := RangeList.exists_read_of_slot hcritical hcriticalSlot hdefinition
      exact ⟨range.zone, hread⟩
  · rw [RangeList.slotAlerts_iff hcritical hcriticalSlot, severity_of_eq_critical_iff]
  · rw [RangeList.slotAlerts_iff hcritical hcriticalSlot,
      RangeList.slotAlerts_iff hwarning hwarningSlot, severity_of_eq_warning_iff]
  · rw [RangeList.slotAlerts_iff hcritical hcriticalSlot,
      RangeList.slotAlerts_iff hwarning hwarningSlot, severity_of_eq_ok_iff]

/-- Two verdicts that report the same and are explained by it are of the same severity. -/
theorem Explains.severity_eq {verdict verdict' : Verdict} (h : verdict.Explains value)
    (h' : verdict'.Explains value) (hwarning : verdict.warning = verdict'.warning)
    (hcritical : verdict.critical = verdict'.critical) :
    verdict.severity = verdict'.severity := by
  by_cases halerts : SlotAlerts verdict.critical value
  · rw [h.critical_iff.2 halerts, h'.critical_iff.2 (hcritical ▸ halerts)]
  · have halerts' : ¬ SlotAlerts verdict'.critical value := hcritical ▸ halerts
    by_cases hwarns : SlotAlerts verdict.warning value
    · rw [h.warning_iff.2 ⟨halerts, hwarns⟩, h'.warning_iff.2 ⟨halerts', hwarning ▸ hwarns⟩]
    · rw [h.ok_iff.2 ⟨halerts, hwarns⟩, h'.ok_iff.2 ⟨halerts', hwarning ▸ hwarns⟩]

/-- **What a verdict reports explains it.** For lists that were read, the verdict on a value reports
for each list the definition of the first range of the metric. Each reported definition is read
again, as a range without a metric; the severity is critical if the value alerts on the reported
critical range, else warning if it alerts on the reported warning range, else ok. So verdicts on the
same value that report the same definitions have the same severity, whichever lists and metrics they
come from. Performance data gets just these definitions into its slots, and is otherwise left as it
is. -/
theorem of_explained (hwarning : RangeList.read w = .ok warning)
    (hcritical : RangeList.read c = .ok critical) :
    (∀ value metric,
      let verdict := of warning critical value metric
      warning.Slot metric verdict.warning ∧ critical.Slot metric verdict.critical ∧
        verdict.Explains value) ∧
    (∀ w' c' warning' critical' value metric metric',
      RangeList.read w' = .ok warning' → RangeList.read c' = .ok critical' →
      let verdict := of warning critical value metric
      let verdict' := of warning' critical' value metric'
      verdict.warning = verdict'.warning → verdict.critical = verdict'.critical →
        verdict.severity = verdict'.severity) ∧
    ∀ item : PerfData,
      let verdict := of warning critical item.value item.label
      ∃ annotated, PerfData.evaluate warning critical item = (verdict.severity, annotated) ∧
        verdict.Annotates item annotated := by
  refine ⟨fun value metric => ⟨warning.slot_select metric, critical.slot_select metric,
    explains_of hwarning hcritical value metric⟩, ?_, fun item => ⟨_, rfl, annotates_annotate _ _⟩⟩
  intro w' c' warning' critical' value metric metric' hwarning' hcritical'
  exact (explains_of hwarning hcritical value metric).severity_eq
    (explains_of hwarning' hcritical' value metric')

/-- Two critical ranges of one metric: the first is reported, and although the second alerts on
every value, the warning range decides. A preset slot gives way. -/
theorem of_explained_repeated_metric :
    let warning : RangeList := ⟨[⟨"disk".toList, "~:".toList, ⟨.outside, .negInf, .posInf⟩⟩,
      ⟨"load".toList, "@0::".toList, ⟨.inside, .zero false, .posInf⟩⟩]⟩
    let critical : RangeList := ⟨[⟨"load".toList, "@:-0".toList, ⟨.inside, .negInf, .zero true⟩⟩,
      ⟨"load".toList, "@~:".toList, ⟨.inside, .negInf, .posInf⟩⟩]⟩
    let item : PerfData :=
      { PerfData.bare "load".toList .posInf "s".toList with critical := some "1".toList }
    RangeList.read "disk,~:;load,@0::".toList = .ok warning ∧
      RangeList.read ";load,@:-0;load,@~:".toList = .ok critical ∧
      SlotAlerts (some "@0::".toList) .posInf ∧ ¬ SlotAlerts (some "@:-0".toList) .posInf ∧
      ∃ annotated, PerfData.evaluate warning critical item = (.warning, annotated) ∧
        annotated.critical = some "@:-0".toList ∧ annotated.uom = "s".toList := by
  intro warning critical item
  have hwarning : RangeList.read "disk,~:;load,@0::".toList = .ok warning := by decide +kernel
  have hcritical : RangeList.read ";load,@:-0;load,@~:".toList = .ok critical := by decide +kernel
  have hverdict : of warning critical .posInf "load".toList =
      ⟨.warning, some "@0::".toList, some "@:-0".toList⟩ := by decide +kernel
  obtain ⟨hexplained, -, hitems⟩ := of_explained hwarning hcritical
  obtain ⟨-, -, hexplains⟩ := hexplained .posInf "load".toList
  obtain ⟨annotated, hevaluate, hannotates⟩ := hitems item
  have hitem : of warning critical item.value item.label =
      ⟨.warning, some "@0::".toList, some "@:-0".toList⟩ := hverdict
  rw [hverdict] at hexplains
  rw [hitem] at hevaluate hannotates
  obtain ⟨hsilent, halerts⟩ := hexplains.warning_iff.1 rfl
  exact ⟨hwarning, hcritical, halerts, hsilent, annotated, hevaluate,
    hannotates.critical _ rfl, hannotates.uom⟩

end Verdict

end ThresholdCheck
