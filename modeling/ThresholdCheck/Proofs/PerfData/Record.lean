import ThresholdCheck.PerfData.Record
import ThresholdCheck.Proofs.Json.Records
import ThresholdCheck.Proofs.Json.Scaling

/-!
# Performance data comes back from its record

All texts of an item, set or not, come back as they are. The value does so with its sign, but what
is read for its magnitude is the written decimal after scaling, which is not always the number that
was written. An infinity or NaN is written as null, and null is no number.

## Main definitions

* `PerfData.row` — the values of the fields

## Main results

* `PerfData.decode_of_finite`, `PerfData.decode_of_not_finite` — the two cases
* `PerfData.decode_written` — writing an item and reading it
-/

namespace ThresholdCheck

/- Powers of natural numbers are the core library's, whatever else is loaded. -/
attribute [local instance (2000)] instPowNat

namespace PerfData

/-! ### Items -/

/-- The values of the fields, in the order of the shape. -/
def row (item : PerfData) : Json.Row shape.fields :=
  (item.label, item.value, item.uom, item.warning, item.critical, item.minimum, item.maximum, ())

/-- The fields of the record of an item. -/
def fields (item : PerfData) : List (Text × Json) :=
  [ ("label".toList, .string item.label), ("value".toList, .number item.value),
    ("uom".toList, .string item.uom), ("warning".toList, .optional item.warning),
    ("critical".toList, .optional item.critical), ("minimum".toList, .optional item.minimum),
    ("maximum".toList, .optional item.maximum) ]

theorem toJson_eq (item : PerfData) : item.toJson = .object item.fields := rfl

theorem ofRow_row (item : PerfData) : ofRow item.row = item := rfl

/-- The fields of an item's record, but for the value, are read as its texts; so is the value if
there is a magnitude that is read for it. -/
theorem readsAs_of_mem_fields {item : PerfData} {negative : Bool} {m y : Magnitude}
    (hvalue : item.value = .finite negative m)
    (hy : Json.scaled? m.written.1 m.written.2 = some y) {field : Text × Json}
    (h : field ∈ item.fields) {s : Text} (hs : Json.EndsEntry s) :
    Json.Row.ReadsAs shape.fields { item with value := .finite negative y }.row field.1
      (Json.compact field.2 ++ s) s := by
  simp only [fields, List.mem_cons, List.not_mem_nil, or_false] at h
  rcases h with rfl | rfl | rfl | rfl | rfl | rfl | rfl
  · exact Json.readText_quoted _ s
  · rw [hvalue]
    have hread : Json.readFloat (Json.numberText (.finite negative m) ++ s) =
        .ok (.finite negative y, s) := by
      rw [Json.readFloat_numberText negative m hs.endsNumber, Json.readScaled, hy]
      rfl
    exact hread
  · exact Json.readText_quoted _ s
  · exact Json.readOptionalText_compact _ s
  · exact Json.readOptionalText_compact _ s
  · exact Json.readOptionalText_compact _ s
  · exact Json.readOptionalText_compact _ s

/-- A finite value comes back as what is read for its magnitude, and with it the whole item. -/
theorem decode_of_finite {item : PerfData} {negative : Bool} {m y : Magnitude}
    (hvalue : item.value = .finite negative m)
    (hy : Json.scaled? m.written.1 m.written.2 = some y) :
    decode item.toJson.compact = .ok { item with value := .finite negative y } := by
  have hnames : item.fields.map Prod.fst = shape.fields.map Json.Field.name := rfl
  have hnodup : (shape.fields.map Json.Field.name).Nodup := by decide
  have hrecord := Json.readRecord_compact
    (fun _ hfield _ hs => readsAs_of_mem_fields hvalue hy hfield hs) hnodup
    (hnames ▸ hnodup) (fun field hfield => hnames ▸ List.mem_map_of_mem hfield) []
  rw [List.append_nil, ← toJson_eq] at hrecord
  rw [decode, Json.decode_eq_ok_iff]
  exact ⟨_, [], hrecord, congrArg Except.ok (ofRow_row _), rfl⟩

/-- The value of an item comes back just if it is what is read for its magnitude. -/
theorem decode_eq_ok_iff_of_finite {item : PerfData} {negative : Bool} {m y : Magnitude}
    (hvalue : item.value = .finite negative m)
    (hy : Json.scaled? m.written.1 m.written.2 = some y) :
    decode item.toJson.compact = .ok item ↔ y = m := by
  rw [decode_of_finite hvalue hy, Except.ok.injEq]
  constructor
  · intro h
    have hsame : Binary64.finite negative y = .finite negative m := by
      rw [← hvalue, ← h]
    exact (Binary64.finite.inj hsame).2
  · rintro rfl
    rw [← hvalue]

theorem numberText_of_not_finite {x : Binary64} (h : ∀ negative m, x ≠ .finite negative m) :
    Json.numberText x = "null".toList := by
  cases x with
  | nan => rfl
  | infinite negative => rfl
  | finite negative m => exact absurd rfl (h negative m)

/-- The label of an item is read, and null in the place of its value is refused. -/
theorem readRecord_of_not_finite {item : PerfData}
    (h : ∀ negative m, item.value ≠ .finite negative m) :
    ∃ rest, Json.readRecord shape item.toJson.compact =
      .error (.here (.invalidType .null "f64".toList) rest) := by
  have hopen : Json.skipBlanks item.toJson.compact = '{' :: Json.fieldsOn true item.fields [] := by
    rw [toJson_eq, Json.compact, Json.skipBlanks_of_not_blank rfl]
    rfl
  obtain ⟨more, hfields⟩ : ∃ more, item.fields =
      ("label".toList, .string item.label) :: ("value".toList, .number item.value) :: more :=
    ⟨_, rfl⟩
  have hnodup : (shape.fields.map Json.Field.name).Nodup := by decide
  have hlabel (s : Text) : (Json.Draft.empty shape.fields).readEntry shape.fields "label".toList
      (':' :: (Json.quoted item.label ++ s)) =
        .ok (Json.Draft.ofRow shape.fields item.row ["label".toList], s) := by
    have hread : Json.Row.ReadsAs shape.fields item.row "label".toList
        (Json.quoted item.label ++ s) s := Json.readText_quoted item.label s
    rw [Json.Draft.readEntry, Json.Draft.empty_eq_ofRow _ item.row,
      Json.Draft.readField?_ofRow hnodup List.not_mem_nil (Json.readColon_colon _) hread]
  have hfield : (⟨"value".toList, .number⟩ : Json.Field) ∈ shape.fields :=
    List.mem_cons_of_mem _ List.mem_cons_self
  have hvalue (s : Text) : (Json.Draft.ofRow shape.fields item.row ["label".toList]).readEntry
      shape.fields "value".toList (':' :: ("null".toList ++ s)) =
        .error (.here (.invalidType .null "f64".toList) s) :=
    Json.Draft.readEntry_of_error hnodup hfield (by decide) (Json.readColon_colon _)
      (Json.readFloat_null s)
  have hentries : Json.readEntries shape.fields (.empty shape.fields) true
      (Json.fieldsOn true item.fields []) =
        .error (.here (.invalidType .null "f64".toList) (Json.fieldsOn false more [])) := by
    rw [hfields, Json.fieldsOn_cons, Json.fieldsOn_cons, Json.compact, Json.compact,
      numberText_of_not_finite h]
    exact (Json.readEntries_of_ok (Json.readName_first _ _) (hlabel _)).trans
      (Json.readEntries_of_error (Json.readName_next _ _) (hvalue _))
  rw [Json.readRecord, hopen]
  simp only [Char.reduceEq, if_false, if_true, hentries]
  exact ⟨_, rfl⟩

/-- An infinity or a NaN is written as null, which is refused in its place. -/
theorem decode_of_not_finite {item : PerfData}
    (h : ∀ negative m, item.value ≠ .finite negative m) :
    ∃ position,
      decode item.toJson.compact = .error ⟨.invalidType .null "f64".toList, position⟩ := by
  obtain ⟨rest, hrecord⟩ := readRecord_of_not_finite h
  rw [decode, Json.decode, hrecord]
  exact ⟨_, rfl⟩

/-- **Writing an item and reading it.** Every item with a finite value is read again, with all its
texts as they were and a value of the same sign, whose magnitude is the written decimal as the
reader scales it. So the item comes back unchanged just if scaling gives the magnitude that was
written, and it does so if the significand and the power of ten are scaled without rounding them
first. Without a finite value the record is refused because of its null. -/
theorem decode_written (item : PerfData) :
    (∀ negative m, item.value = .finite negative m →
      ∃ y, Json.scaled? m.written.1 m.written.2 = some y ∧
        decode item.toJson.compact = .ok { item with value := .finite negative y } ∧
        (decode item.toJson.compact = .ok item ↔ y = m) ∧
        (m.written.1 ≤ 2 ^ 53 → m.written.2.natAbs ≤ 22 → y = m)) ∧
    ((∀ negative m, item.value ≠ .finite negative m) →
      ∃ position,
        decode item.toJson.compact = .error ⟨.invalidType .null "f64".toList, position⟩) := by
  refine ⟨fun negative m hvalue => ?_, decode_of_not_finite⟩
  obtain ⟨y, hy⟩ := Json.exists_scaled?_written m
  refine ⟨y, hy, decode_of_finite hvalue hy, decode_eq_ok_iff_of_finite hvalue hy,
    fun hsignificand hexponent => ?_⟩
  have hexact := Json.scaled?_eq_some_of_readsBack hsignificand hexponent m.readsBack_written
  exact Option.some.inj (hy.symm.trans hexact)

/-- The number nearest to a tenth. -/
def tenth : Magnitude := ⟨3602879701896397 * 2 ^ 1019, by decide +kernel⟩

/-- An item with a negative tenth and with texts that need escapes comes back. -/
theorem decode_written_tenth :
    let item : PerfData := ⟨"a\"b\\\n\x01 ü".toList, .finite true tenth, ['%'], some "~:0".toList,
      none, some [], none⟩
    tenth.written = (1, -1) ∧ decode item.toJson.compact = .ok item := by
  intro item
  have hwritten : tenth.written = (1, -1) := by decide +kernel
  obtain ⟨y, -, -, hiff, hexact⟩ := (decode_written item).1 true tenth rfl
  rw [hwritten] at hexact
  exact ⟨hwritten, hiff.2 (hexact (by decide) (by decide))⟩

/-- The number nearest to an eleventh. -/
def eleventh : Magnitude := ⟨6550690367084358 * 2 ^ 1018, by decide +kernel⟩

/-- The number after that. -/
def afterEleventh : Magnitude := ⟨6550690367084359 * 2 ^ 1018, by decide +kernel⟩

/-- An eleventh comes back as the next number. -/
theorem decode_written_eleventh :
    let item : PerfData := .bare ['a'] (.finite false eleventh) []
    decode item.toJson.compact = .ok { item with value := .finite false afterEleventh } ∧
      decode item.toJson.compact ≠ .ok item := by
  intro item
  have hscaled : Json.scaled? eleventh.written.1 eleventh.written.2 = some afterEleventh := by
    decide +kernel
  have hne : afterEleventh ≠ eleventh := by decide +kernel
  exact ⟨decode_of_finite rfl hscaled, fun h => hne ((decode_eq_ok_iff_of_finite rfl hscaled).1 h)⟩

end PerfData

end ThresholdCheck
