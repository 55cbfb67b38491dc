import ThresholdCheck.Proofs.Check.Run
import ThresholdCheck.Proofs.Json.Trees
import ThresholdCheck.Proofs.Range.Lists
import ThresholdCheck.Proofs.Range.Record

/-!
# The ranges of a dump

A dump shows the ranges of a check as one JSON text: an object with the two lists, their records
and the fields of a record in the order of names, over several lines. Whoever reads JSON gets the
ranges back from it. The text has one value, an object of two arrays; each item of an array is read
as the range that stands at its place in the list, with the bounds in full, and this for any text of
the item, since a reader need not keep the blanks and the escapes of the dump.

## Main definitions

* `AlertRange.IsRecord` — a JSON value that is read as a range

## Main results

* `AlertRange.isRecord_dump` — the record in a dump
* `Config.isText_dumpText_iff` — the value of a dump
* `Config.decode_dumpText` — the ranges of a dump
-/

namespace ThresholdCheck

namespace AlertRange

/-- A JSON value that has a text, and whose texts are all read as the range. -/
structure IsRecord (range : AlertRange) (value : Json) : Prop where
  exists_isText : ∃ t, Json.IsText value t
  decode_eq : ∀ t, Json.IsText value t → decode t = .ok range

/-- Any text of a field's value is read as the value in the row. -/
theorem readsAs_of_spells {range : AlertRange} {field : Text × Json} (h : field ∈ range.fields)
    {s rest : Text} (hs : Json.Spells field.2 s rest) :
    Json.Row.ReadsAs shape.fields range.row field.1 s rest := by
  simp only [fields, List.mem_cons, List.not_mem_nil, or_false] at h
  rcases h with rfl | rfl | rfl | rfl | rfl
  · exact Json.readText_of_spells hs
  · exact Json.readText_of_spells hs
  · exact Json.readFlag_of_spells hs
  · exact Json.readText_of_spells hs
  · exact Json.readText_of_spells hs

/-- A range with the zone of its definition passes the check of its own record. -/
theorem ofRow_row {range : AlertRange} (h : Zone.read range.definition = .ok range.zone) :
    ofRow range.row = .ok range :=
  ofRecord_eq_ok_iff.2 ⟨range.zone, h, rfl, checkBound_fixedText_iff.2 rfl,
    checkBound_fixedText_iff.2 rfl, rfl⟩

theorem map_fst_dump_fields (range : AlertRange) :
    (Json.sortFields range.fields).map Prod.fst =
      ["definition".toList, "end".toList, "inside".toList, "metric".toList, "start".toList] := by
  rfl

theorem numberFree_dump (range : AlertRange) : range.dump.numberFree := by
  rfl

/-- A range with the zone of its definition is read from every text of its record. -/
theorem isRecord_dump {range : AlertRange} (h : Zone.read range.definition = .ok range.zone) :
    range.IsRecord range.dump where
  exists_isText := ⟨_, Json.isText_pretty range.numberFree_dump⟩
  decode_eq t ht := by
    obtain ⟨rest, hspells, hblank⟩ := ht
    have hrecord : Json.readRecord shape t = .ok (range.row, rest) := by
      refine Json.readRecord_of_spells hspells ?_ (by decide) ?_ ?_
      · exact fun field hfield s rest => readsAs_of_spells (Json.mem_sortFields.1 hfield)
      · rw [map_fst_dump_fields]
        decide
      · rw [map_fst_dump_fields]
        decide
    exact Json.decode_eq_ok_iff.2 ⟨range.row, rest, hrecord, ofRow_row h, hblank⟩

end AlertRange

namespace RangeList

theorem numberFree_dump (list : RangeList) : list.dump.numberFree := by
  rw [dump, Json.numberFree, Json.itemsNumberFree_iff, List.forall_mem_map]
  exact fun range _ => range.numberFree_dump

/-- The items of a list that was read, in the order of its ranges. -/
theorem forall₂_isRecord_of_read {t : Text} {list : RangeList} (h : RangeList.read t = .ok list) :
    List.Forall₂ AlertRange.IsRecord list.ranges (list.ranges.map AlertRange.dump) := by
  rw [List.forall₂_map_right_iff, List.forall₂_same]
  intro range hrange
  obtain ⟨piece, -, hpiece⟩ := exists_read_of_mem h hrange
  exact AlertRange.isRecord_dump (AlertRange.zone_read_of_read hpiece)

end RangeList

namespace Config

variable {config : Config}

theorem dumpJson_eq (config : Config) :
    config.dumpJson = .object [("critical".toList, config.critical.dump),
      ("warning".toList, config.warning.dump)] := by
  rfl

theorem numberFree_dumpJson (config : Config) : config.dumpJson.numberFree := by
  simp [dumpJson_eq, Json.numberFree, Json.fieldsNumberFree, Json.fieldNumberFree,
    RangeList.numberFree_dump]

/-- The text of a dump has one value: an object of the two lists. -/
theorem isText_dumpText_iff {value : Json} :
    Json.IsText value config.dumpText ↔
      value = .object [("critical".toList, config.critical.dump),
        ("warning".toList, config.warning.dump)] :=
  Json.isText_pretty_iff config.numberFree_dumpJson

/-- **The ranges of a dump.** For settings that are accepted, the text of the dump is an object with
the names `critical` and `warning` and no others, both arrays. Their items are read as the ranges of
the two lists, one for each range and in the same order. -/
theorem decode_dumpText {settings : Settings} (h : Config.read settings = .ok config) :
    ∃ critical warning : List Json,
      (∀ value, Json.IsText value config.dumpText ↔
        value = .object
          [("critical".toList, .array critical), ("warning".toList, .array warning)]) ∧
      List.Forall₂ AlertRange.IsRecord config.critical.ranges critical ∧
      List.Forall₂ AlertRange.IsRecord config.warning.ranges warning := by
  obtain ⟨hwarning, hcritical, -⟩ := read_texts_of_read h
  exact ⟨_, _, fun _ => isText_dumpText_iff, RangeList.forall₂_isRecord_of_read hcritical,
    RangeList.forall₂_isRecord_of_read hwarning⟩

/-- Metrics with quotes, a backslash and controls, a bound that six digits show as zero, and a list
without ranges. -/
theorem decode_dumpText_odd_metrics :
    let settings : Settings :=
      ⟨"a\"b\\,10:;\n\x01 ü,@~:1e-7".toList, [], [], none, none, [], true, []⟩
    ∃ config, Config.read settings = .ok config ∧ config.warning.ranges.length = 2 ∧
      ∃ critical warning : List Json,
        (∀ value, Json.IsText value config.dumpText ↔
          value = .object
            [("critical".toList, .array critical), ("warning".toList, .array warning)]) ∧
        List.Forall₂ AlertRange.IsRecord config.critical.ranges critical ∧
        List.Forall₂ AlertRange.IsRecord config.warning.ranges warning := by
  intro settings
  have hread : (Config.read settings).toOption.any fun config =>
      config.warning.ranges.length = 2 := by decide +kernel
  cases h : Config.read settings with
  | error e =>
    rw [h] at hread
    cases hread
  | ok config =>
    rw [h] at hread
    exact ⟨config, rfl, of_decide_eq_true hread, decode_dumpText h⟩

end Config

end ThresholdCheck
