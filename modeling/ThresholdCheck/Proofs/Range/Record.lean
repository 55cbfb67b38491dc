import ThresholdCheck.Proofs.Decimal.SixDigits
import ThresholdCheck.Proofs.Json.Records
import ThresholdCheck.Proofs.Range.Grammar
import ThresholdCheck.Range.Record

/-!
# Ranges survive their records

The bounds in a record are checked, never used: what is read has the bounds of the definition. A
record written for a range is therefore read again exactly if the definition gives a zone that is
written with the same six digits, and this includes every range that was read from a text or from a
record before.

## Main definitions

* `Zone.WrittenAlike` — zones that the bounds and the flag of a record do not tell apart

## Main results

* `AlertRange.ofRecord_eq_ok_iff` — which fields are a range
* `AlertRange.decode_compact_toJson_iff` — which ranges can be read from their records
* `AlertRange.zone_read_of_read`, `AlertRange.zone_read_of_decode` — ranges that were read have the
  zones of their definitions
* `AlertRange.decode_compact_toJson` — writing a range and reading it
-/

namespace ThresholdCheck

/-- Two zones on the same side of bounds with the same six digits. -/
structure Zone.WrittenAlike (zone other : Zone) : Prop where
  sense : zone.sense = other.sense
  lower : zone.lower.fixedText = other.lower.fixedText
  upper : zone.upper.fixedText = other.upper.fixedText

theorem Zone.WrittenAlike.refl (zone : Zone) : zone.WrittenAlike zone := ⟨rfl, rfl, rfl⟩

namespace AlertRange

/-! ### The fields of a record -/

theorem checkBound_eq_ok_iff {name written definition : Text} {bound : Binary64} :
    checkBound name written bound definition = .ok () ↔
      ∃ value, Binary64.read? written = some value ∧ value.fixedText = bound.fixedText := by
  rw [checkBound]
  split
  · rename_i hread
    simp [hread]
  · rename_i value hread
    simp [hread]

/-- The text of a number passes for a bound if the bound is written alike. -/
theorem checkBound_fixedText_iff {name definition : Text} {x bound : Binary64} :
    checkBound name x.fixedText bound definition = .ok () ↔ bound.fixedText = x.fixedText := by
  obtain ⟨y, hread, htext⟩ := x.exists_read?_fixedText
  rw [checkBound_eq_ok_iff, hread]
  simp [htext, eq_comm]

/-- Fields are a range if the definition is one, and the flag and the bounds agree with it. -/
theorem ofRecord_eq_ok_iff {definition metric start stop : Text} {inside : Bool}
    {result : AlertRange} :
    ofRecord definition metric inside start stop = .ok result ↔
      ∃ zone, Zone.read definition = .ok zone ∧
        inside = expectsInside ⟨metric, definition, zone⟩ ∧
        checkBound "start".toList start zone.lower definition = .ok () ∧
        checkBound "end".toList stop zone.upper definition = .ok () ∧
        result = ⟨metric, definition, zone⟩ := by
  rw [ofRecord]
  split
  · rename_i hread
    simp [hread]
  · rename_i zone hread
    simp only [hread, Except.ok.injEq, exists_eq_left']
    by_cases hinside : inside = expectsInside ⟨metric, definition, zone⟩
    · simp only [if_pos hinside, Except.bind_eq_ok_iff]
      constructor
      · rintro ⟨⟨⟩, hstart, ⟨⟩, hend, hresult⟩
        cases hresult
        exact ⟨hinside, hstart, hend, rfl⟩
      · rintro ⟨-, hstart, hend, rfl⟩
        exact ⟨(), hstart, (), hend, rfl⟩
    · simp [hinside]

/-! ### Writing and reading -/

/-- The values of the fields, in the order of the shape. -/
def row (range : AlertRange) : Json.Row shape.fields :=
  (range.definition, range.metric, range.expectsInside, range.zone.lower.fixedText,
    range.zone.upper.fixedText, ())

theorem readsAs_of_mem_fields {range : AlertRange} {field : Text × Json}
    (h : field ∈ range.fields) (s : Text) :
    Json.Row.ReadsAs shape.fields range.row field.1 (Json.compact field.2 ++ s) s := by
  simp only [fields, List.mem_cons, List.not_mem_nil, or_false] at h
  rcases h with rfl | rfl | rfl | rfl | rfl
  · exact Json.readText_quoted _ s
  · exact Json.readText_quoted _ s
  · exact Json.readFlag_compact _ s
  · exact Json.readText_quoted _ s
  · exact Json.readText_quoted _ s

theorem readRecord_compact_toJson (range : AlertRange) :
    Json.readRecord shape range.toJson.compact = .ok (range.row, []) := by
  have hnames : range.fields.map Prod.fst = shape.fields.map Json.Field.name := rfl
  have hnodup : (shape.fields.map Json.Field.name).Nodup := by decide
  have h := Json.readRecord_compact (fun _ hfield s _ => readsAs_of_mem_fields hfield s) hnodup
    (hnames ▸ hnodup) (fun field hfield => hnames ▸ List.mem_map_of_mem hfield) []
  rwa [List.append_nil] at h

/-- Whether a zone expects values inside tells which side of it alerts. -/
theorem expectsInside_eq_iff {range other : AlertRange} :
    range.expectsInside = other.expectsInside ↔ range.zone.sense = other.zone.sense := by
  unfold expectsInside
  cases range.zone.sense <;> cases other.zone.sense <;> simp

/-- The record of a range is read as its definition with the same metric, if the zone of the
definition is written like the range's. -/
theorem decode_compact_toJson_iff {range result : AlertRange} :
    decode range.toJson.compact = .ok result ↔
      ∃ zone, Zone.read range.definition = .ok zone ∧ zone.WrittenAlike range.zone ∧
        result = ⟨range.metric, range.definition, zone⟩ := by
  have hdecode : decode range.toJson.compact = .ok result ↔ ofRow range.row = .ok result := by
    rw [decode, Json.decode_eq_ok_iff, readRecord_compact_toJson]
    constructor
    · rintro ⟨row, rest, hrow, hresult, -⟩
      cases hrow
      exact hresult
    · intro hresult
      exact ⟨range.row, [], rfl, hresult, rfl⟩
  rw [hdecode, row, ofRow, ofRecord_eq_ok_iff]
  simp only [checkBound_fixedText_iff, expectsInside_eq_iff]
  constructor
  · rintro ⟨zone, hread, hsense, hlower, hupper, rfl⟩
    exact ⟨zone, hread, ⟨hsense.symm, hlower, hupper⟩, rfl⟩
  · rintro ⟨zone, hread, ⟨hsense, hlower, hupper⟩, rfl⟩
    exact ⟨zone, hread, hsense.symm, hlower, hupper, rfl⟩

/-! ### Ranges that were read -/

theorem zone_read_of_read {t : Text} {range : AlertRange} (h : read t = .ok range) :
    Zone.read range.definition = .ok range.zone :=
  (read_eq_ok_iff.1 h).2

theorem zone_read_of_decode {t : Text} {range : AlertRange} (h : decode t = .ok range) :
    Zone.read range.definition = .ok range.zone := by
  obtain ⟨⟨definition, metric, inside, start, stop, ⟨⟩⟩, _, -, hrow, -⟩ :=
    Json.decode_eq_ok_iff.1 h
  obtain ⟨zone, hzone, -, -, -, rfl⟩ := ofRecord_eq_ok_iff.1 hrow
  exact hzone

/-- A range with the zone of its definition is read from its record unchanged. -/
theorem decode_compact_toJson_of_zone_read {range : AlertRange}
    (h : Zone.read range.definition = .ok range.zone) :
    decode range.toJson.compact = .ok range :=
  decode_compact_toJson_iff.2 ⟨range.zone, h, .refl range.zone, rfl⟩

/-- Any range at all, consistent or not, can be read from its record just if its definition gives a
zone that is written like the range's; the definition then says what is read, with its bounds in
full. Hence a range that was read, from a text or from a record, is read from its record
unchanged. -/
theorem decode_compact_toJson (range : AlertRange) :
    (∀ result, decode range.toJson.compact = .ok result ↔
      ∃ zone, Zone.read range.definition = .ok zone ∧ zone.WrittenAlike range.zone ∧
        result = ⟨range.metric, range.definition, zone⟩) ∧
    (∀ t, read t = .ok range → decode range.toJson.compact = .ok range) ∧
    (∀ t, decode t = .ok range → decode range.toJson.compact = .ok range) :=
  ⟨fun _ => decode_compact_toJson_iff,
    fun _ h => decode_compact_toJson_of_zone_read (zone_read_of_read h),
    fun _ h => decode_compact_toJson_of_zone_read (zone_read_of_decode h)⟩

end AlertRange

end ThresholdCheck
