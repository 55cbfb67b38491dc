import ThresholdCheck.Proofs.Json.Records

/-!
# The texts of JSON values

What it means for a text to be a JSON text of some value: a grammar over the tokens that records
are read by. Blanks may stand anywhere between them, and strings may use any escapes. A text has at
most one value, whoever reads it; and a value without numbers is written over several lines as one
of its texts.

The grammar never mentions the printer or the reader of records. It connects the two: what is
written can be read as a record, and so can every other text of the same value.

## Main definitions

* `Json.Spells`, `Json.SpellsItems`, `Json.SpellsFields` — a text that begins with a value, or with
  what is left of an array or of an object
* `Json.IsText` — a text of a value
* `Json.numberFree` — values without numbers

## Main results

* `Json.IsText.unique` — the value of a text
* `Json.isText_pretty` — a value written over several lines
* `Json.readRecord_of_spells` — any text of an object with the fields of a record
-/

namespace ThresholdCheck

namespace Json

/-! ### The grammar -/

/-- A value without brackets, whose first character stands before the text. -/
def readScalar (c : Char) (rest : Text) : Except Fault (Json × Text) :=
  if c = 'n' then (readWord "ull".toList rest).map (null, ·)
  else if c = 't' then (readWord "rue".toList rest).map (bool true, ·)
  else if c = 'f' then (readWord "alse".toList rest).map (bool false, ·)
  else if c = '-' then (readNumber true rest).map fun (n, after) => (number n.value, after)
  else if c.isDigit then
    (readNumber false (c :: rest)).map fun (n, after) => (number n.value, after)
  else if c = '"' then (readString rest).map fun (t, after) => (string t, after)
  else .error (.next .expectedValue (c :: rest))

mutual

/-- The text `s` begins with a value; `rest` follows it. -/
inductive Spells : Json → Text → Text → Prop
  | scalar {value : Json} {c : Char} {s after rest : Text} (hs : skipBlanks s = c :: after)
      (hvalue : readScalar c after = .ok (value, rest)) : Spells value s rest
  | array {items : List Json} {s after rest : Text} (hs : skipBlanks s = '[' :: after)
      (hitems : SpellsItems true items after rest) : Spells (.array items) s rest
  | object {fields : List (Text × Json)} {s after rest : Text} (hs : skipBlanks s = '{' :: after)
      (hfields : SpellsFields true fields after rest) : Spells (.object fields) s rest

/-- The text `s` begins with items and the bracket that closes the array. -/
inductive SpellsItems : Bool → List Json → Text → Text → Prop
  | close {first : Bool} {s rest : Text} (hnext : nextItem first s = .ok (false, rest)) :
      SpellsItems first [] s rest
  | item {first : Bool} {item : Json} {items : List Json} {s s₁ s₂ rest : Text}
      (hnext : nextItem first s = .ok (true, s₁)) (hitem : Spells item s₁ s₂)
      (hmore : SpellsItems false items s₂ rest) : SpellsItems first (item :: items) s rest

/-- The text `s` begins with fields and the bracket that closes the object. -/
inductive SpellsFields : Bool → List (Text × Json) → Text → Text → Prop
  | close {first : Bool} {s rest : Text} (hname : readName first s = .ok (none, rest)) :
      SpellsFields first [] s rest
  | field {first : Bool} {name : Text} {value : Json} {fields : List (Text × Json)}
      {s s₁ s₂ s₃ rest : Text} (hname : readName first s = .ok (some name, s₁))
      (hcolon : readColon s₁ = .ok s₂) (hvalue : Spells value s₂ s₃)
      (hmore : SpellsFields false fields s₃ rest) :
      SpellsFields first ((name, value) :: fields) s rest

end

/-- A whole text is a value, with blanks around it at most. -/
def IsText (value : Json) (t : Text) : Prop := ∃ rest, Spells value t rest ∧ skipBlanks rest = []

/-! ### One value for a text -/

/-- The first character tells arrays and objects from each other and from all else. -/
theorem Spells.cases_of_skipBlanks {value : Json} {c : Char} {s after rest : Text}
    (h : Spells value s rest) (hs : skipBlanks s = c :: after) :
    readScalar c after = .ok (value, rest) ∨
      (c = '[' ∧ ∃ items, value = .array items ∧ SpellsItems true items after rest) ∨
      c = '{' ∧ ∃ fields, value = .object fields ∧ SpellsFields true fields after rest := by
  cases h with
  | scalar hs' hvalue =>
    rw [hs] at hs'
    cases hs'
    exact .inl hvalue
  | array hs' hitems =>
    rw [hs] at hs'
    cases hs'
    exact .inr (.inl ⟨rfl, _, rfl, hitems⟩)
  | object hs' hfields =>
    rw [hs] at hs'
    cases hs'
    exact .inr (.inr ⟨rfl, _, rfl, hfields⟩)

mutual

theorem Spells.unique {value value' : Json} {s rest rest' : Text} (h : Spells value s rest)
    (h' : Spells value' s rest') : value = value' ∧ rest = rest' := by
  cases h with
  | scalar hs hvalue =>
    rcases h'.cases_of_skipBlanks hs with hvalue' | ⟨rfl, -⟩ | ⟨rfl, -⟩
    · rw [hvalue] at hvalue'
      cases hvalue'
      exact ⟨rfl, rfl⟩
    · cases hvalue
    · cases hvalue
  | array hs hitems =>
    rcases h'.cases_of_skipBlanks hs with hvalue' | ⟨-, items', rfl, hitems'⟩ | ⟨hc, -⟩
    · cases hvalue'
    · obtain ⟨rfl, rfl⟩ := hitems.unique hitems'
      exact ⟨rfl, rfl⟩
    · exact absurd hc (by decide)
  | object hs hfields =>
    rcases h'.cases_of_skipBlanks hs with hvalue' | ⟨hc, -⟩ | ⟨-, fields', rfl, hfields'⟩
    · cases hvalue'
    · exact absurd hc (by decide)
    · obtain ⟨rfl, rfl⟩ := hfields.unique hfields'
      exact ⟨rfl, rfl⟩

theorem SpellsItems.unique {first : Bool} {items items' : List Json} {s rest rest' : Text}
    (h : SpellsItems first items s rest) (h' : SpellsItems first items' s rest') :
    items = items' ∧ rest = rest' := by
  cases h with
  | close hnext =>
    cases h' with
    | close hnext' =>
      rw [hnext] at hnext'
      cases hnext'
      exact ⟨rfl, rfl⟩
    | item hnext' =>
      rw [hnext] at hnext'
      cases hnext'
  | item hnext hitem hmore =>
    cases h' with
    | close hnext' =>
      rw [hnext] at hnext'
      cases hnext'
    | item hnext' hitem' hmore' =>
      rw [hnext] at hnext'
      cases hnext'
      obtain ⟨rfl, rfl⟩ := hitem.unique hitem'
      obtain ⟨rfl, rfl⟩ := hmore.unique hmore'
      exact ⟨rfl, rfl⟩

theorem SpellsFields.unique {first : Bool} {fields fields' : List (Text × Json)}
    {s rest rest' : Text} (h : SpellsFields first fields s rest)
    (h' : SpellsFields first fields' s rest') : fields = fields' ∧ rest = rest' := by
  cases h with
  | close hname =>
    cases h' with
    | close hname' =>
      rw [hname] at hname'
      cases hname'
      exact ⟨rfl, rfl⟩
    | field hname' =>
      rw [hname] at hname'
      cases hname'
  | field hname hcolon hvalue hmore =>
    cases h' with
    | close hname' =>
      rw [hname] at hname'
      cases hname'
    | field hname' hcolon' hvalue' hmore' =>
      rw [hname] at hname'
      cases hname'
      rw [hcolon] at hcolon'
      cases hcolon'
      obtain ⟨rfl, rfl⟩ := hvalue.unique hvalue'
      obtain ⟨rfl, rfl⟩ := hmore.unique hmore'
      exact ⟨rfl, rfl⟩

end

/-- **A text has one value.** -/
theorem IsText.unique {value value' : Json} {t : Text} (h : IsText value t)
    (h' : IsText value' t) : value = value' := by
  obtain ⟨rest, hvalue, -⟩ := h
  obtain ⟨rest', hvalue', -⟩ := h'
  exact (hvalue.unique hvalue').1

/-! ### Blanks -/

@[simp] theorem skipBlanks_newLine (level : Nat) (s : Text) :
    skipBlanks (newLine level ++ s) = skipBlanks s := by
  have hblank : ∀ c ∈ newLine level, isBlank c := by
    rw [newLine, List.forall_mem_cons]
    refine ⟨rfl, fun c hc => ?_⟩
    rw [List.eq_of_mem_replicate hc]
    rfl
  rw [skipBlanks, List.dropWhile_append_of_pos hblank]
  rfl

/-- Blanks in front of a value do not count. -/
theorem Spells.of_skipBlanks {value : Json} {s s' rest : Text} (h : Spells value s rest)
    (hs : skipBlanks s' = skipBlanks s) : Spells value s' rest := by
  cases h with
  | scalar hopen hvalue => exact .scalar (hs.trans hopen) hvalue
  | array hopen hitems => exact .array (hs.trans hopen) hitems
  | object hopen hfields => exact .object (hs.trans hopen) hfields

theorem nextItem_congr {s s' : Text} (h : skipBlanks s = skipBlanks s') (first : Bool) :
    nextItem first s = nextItem first s' := by
  rw [nextItem, nextItem, h]

theorem readName_congr {s s' : Text} (h : skipBlanks s = skipBlanks s') (first : Bool) :
    readName first s = readName first s' := by
  rw [readName, readName, h]

/-! ### Values without numbers -/

mutual

/-- No number occurs in the value. Not every number has a JSON text. -/
def numberFree : Json → Bool
  | number _ => false
  | array items => itemsNumberFree items
  | object fields => fieldsNumberFree fields
  | _ => true

def itemsNumberFree : List Json → Bool
  | [] => true
  | item :: items => numberFree item && itemsNumberFree items

def fieldsNumberFree : List (Text × Json) → Bool
  | [] => true
  | field :: fields => fieldNumberFree field && fieldsNumberFree fields

def fieldNumberFree : Text × Json → Bool
  | (_, value) => numberFree value

end

theorem itemsNumberFree_iff {items : List Json} :
    itemsNumberFree items ↔ ∀ item ∈ items, item.numberFree := by
  induction items with
  | nil => simp [itemsNumberFree]
  | cons item items ih => simp [itemsNumberFree, ih]

/-- What is written for a value begins with neither a blank nor a bracket that closes. -/
theorem prettyAt_head {value : Json} (h : value.numberFree) (level : Nat) :
    ∃ c after, prettyAt level value = c :: after ∧ isBlank c = false ∧ c ≠ ']' := by
  cases value with
  | null => exact ⟨_, _, rfl, rfl, by decide⟩
  | bool value => cases value <;> exact ⟨_, _, rfl, rfl, by decide⟩
  | number value => cases h
  | string value => exact ⟨_, _, rfl, rfl, by decide⟩
  | array items => cases items <;> exact ⟨_, _, rfl, rfl, by decide⟩
  | object fields => cases fields <;> exact ⟨_, _, rfl, rfl, by decide⟩

/-! ### Values over several lines -/

/-- What is left of an array that is written over several lines, from some item on. -/
def itemsOn (level : Nat) (first : Bool) (items : List Json) (rest : Text) : Text :=
  commaBefore first items ++ (prettyItems (level + 1) items ++ (newLine level ++ ']' :: rest))

/-- What is left of an object that is written over several lines, from some field on. -/
def linesOn (level : Nat) (first : Bool) (fields : List (Text × Json)) (rest : Text) : Text :=
  commaBefore first fields ++ (prettyFields (level + 1) fields ++ (newLine level ++ '}' :: rest))

theorem itemsOn_cons (level : Nat) (first : Bool) (item : Json) (items : List Json) (rest : Text) :
    itemsOn level first (item :: items) rest =
      (if first then [] else [',']) ++ (newLine (level + 1) ++
        (prettyAt (level + 1) item ++ itemsOn level false items rest)) := by
  simp [itemsOn, commaBefore, prettyItems]

theorem linesOn_cons (level : Nat) (first : Bool) (name : Text) (value : Json)
    (fields : List (Text × Json)) (rest : Text) :
    linesOn level first ((name, value) :: fields) rest =
      (if first then [] else [',']) ++ (newLine (level + 1) ++ (quoted name ++ ':' :: ' ' ::
        (prettyAt (level + 1) value ++ linesOn level false fields rest))) := by
  simp [linesOn, commaBefore, prettyFields, prettyField]

theorem nextItem_itemsOn_nil (level : Nat) (first : Bool) (rest : Text) :
    nextItem first (itemsOn level first [] rest) = .ok (false, rest) := by
  have hskip : skipBlanks (itemsOn level first [] rest) = skipBlanks (']' :: rest) := by
    simp [itemsOn, commaBefore, prettyItems]
  rw [nextItem_congr hskip, nextItem, skipBlanks_of_not_blank rfl]
  rfl

theorem nextItem_newLine {c : Char} (hblank : isBlank c = false) (hclose : c ≠ ']') (level : Nat)
    (first : Bool) (s : Text) :
    nextItem first ((if first then [] else [',']) ++ (newLine level ++ c :: s)) =
      .ok (true, c :: s) := by
  have hopen : skipBlanks (newLine level ++ c :: s) = c :: s := by
    rw [skipBlanks_newLine, skipBlanks_of_not_blank hblank]
  cases first with
  | true =>
    rw [nextItem]
    simp [hopen, hclose]
  | false =>
    rw [nextItem]
    simp [skipBlanks_of_not_blank (c := ',') rfl, hopen, hclose]

theorem readName_linesOn_nil (level : Nat) (first : Bool) (rest : Text) :
    readName first (linesOn level first [] rest) = .ok (none, rest) := by
  have hskip : skipBlanks (linesOn level first [] rest) = skipBlanks ('}' :: rest) := by
    simp [linesOn, commaBefore, prettyFields]
  rw [readName_congr hskip, readName_close]

theorem readName_newLine (level : Nat) (first : Bool) (name rest : Text) :
    readName first ((if first then [] else [',']) ++ (newLine level ++ (quoted name ++ rest))) =
      .ok (some name, rest) := by
  cases first with
  | true =>
    have hskip : skipBlanks (newLine level ++ (quoted name ++ rest)) =
        skipBlanks (quoted name ++ rest) := skipBlanks_newLine level _
    exact (readName_congr hskip true).trans (readName_first name rest)
  | false =>
    rw [readName]
    simp [skipBlanks_of_not_blank (c := ',') rfl, quoted_append,
      skipBlanks_of_not_blank (c := '"') rfl, readString_flatMap_escape, Except.map]

theorem spells_null (rest : Text) : Spells .null ("null".toList ++ rest) rest := by
  have hword : "null".toList ++ rest = 'n' :: ("ull".toList ++ rest) := rfl
  rw [hword]
  refine .scalar (skipBlanks_of_not_blank rfl _) ?_
  simp only [readScalar, readWord_append, if_true, Except.map]

theorem spells_bool (value : Bool) (rest : Text) :
    Spells (.bool value) (compact (.bool value) ++ rest) rest := by
  cases value with
  | false =>
    have hword : compact (.bool false) ++ rest = 'f' :: ("alse".toList ++ rest) := rfl
    rw [hword]
    refine .scalar (skipBlanks_of_not_blank rfl _) ?_
    simp only [readScalar, readWord_append, Char.reduceEq, if_true, if_false, Except.map]
  | true =>
    have hword : compact (.bool true) ++ rest = 't' :: ("rue".toList ++ rest) := rfl
    rw [hword]
    refine .scalar (skipBlanks_of_not_blank rfl _) ?_
    simp only [readScalar, readWord_append, Char.reduceEq, if_true, if_false, Except.map]

theorem spells_string (t rest : Text) : Spells (.string t) (quoted t ++ rest) rest := by
  rw [quoted_append]
  refine .scalar (skipBlanks_of_not_blank rfl _) ?_
  simp [readScalar, readString_flatMap_escape, Except.map]

mutual

/-- A value without numbers, whatever follows it. -/
theorem spells_prettyAt {value : Json} (h : value.numberFree) (level : Nat) (rest : Text) :
    Spells value (prettyAt level value ++ rest) rest := by
  cases value with
  | null => exact spells_null rest
  | bool value => exact spells_bool value rest
  | number value => cases h
  | string t => exact spells_string t rest
  | array items =>
    cases items with
    | nil => exact .array (skipBlanks_of_not_blank rfl _) (.close rfl)
    | cons item items =>
      have hopen : prettyAt level (.array (item :: items)) ++ rest =
          '[' :: itemsOn level true (item :: items) rest := by
        simp [prettyAt, itemsOn, commaBefore]
      rw [hopen]
      exact .array (skipBlanks_of_not_blank rfl _) (spellsItems_itemsOn h level true rest)
  | object fields =>
    cases fields with
    | nil => exact .object (skipBlanks_of_not_blank rfl _) (.close rfl)
    | cons field fields =>
      have hopen : prettyAt level (.object (field :: fields)) ++ rest =
          '{' :: linesOn level true (field :: fields) rest := by
        simp [prettyAt, linesOn, commaBefore]
      rw [hopen]
      exact .object (skipBlanks_of_not_blank rfl _) (spellsFields_linesOn h level true rest)

theorem spellsItems_itemsOn {items : List Json} (h : itemsNumberFree items) (level : Nat)
    (first : Bool) (rest : Text) :
    SpellsItems first items (itemsOn level first items rest) rest := by
  cases items with
  | nil => exact .close (nextItem_itemsOn_nil level first rest)
  | cons item items =>
    obtain ⟨hitem, hitems⟩ : item.numberFree ∧ itemsNumberFree items := by
      simpa [itemsNumberFree] using h
    obtain ⟨c, after, hhead, hblank, hclose⟩ := prettyAt_head hitem (level + 1)
    have hnext := nextItem_newLine hblank hclose (level + 1) first
      (after ++ itemsOn level false items rest)
    rw [← List.cons_append, ← hhead] at hnext
    rw [itemsOn_cons]
    exact .item hnext (spells_prettyAt hitem (level + 1) _)
      (spellsItems_itemsOn hitems level false rest)

theorem spellsFields_linesOn {fields : List (Text × Json)} (h : fieldsNumberFree fields)
    (level : Nat) (first : Bool) (rest : Text) :
    SpellsFields first fields (linesOn level first fields rest) rest := by
  cases fields with
  | nil => exact .close (readName_linesOn_nil level first rest)
  | cons field fields =>
    obtain ⟨name, value⟩ := field
    obtain ⟨hvalue, hfields⟩ : value.numberFree ∧ fieldsNumberFree fields := by
      simpa [fieldsNumberFree, fieldNumberFree] using h
    rw [linesOn_cons]
    exact .field (readName_newLine (level + 1) first name _) (readColon_colon _)
      ((spells_prettyAt hvalue (level + 1) _).of_skipBlanks rfl)
      (spellsFields_linesOn hfields level false rest)

end

/-- A value without numbers is written over several lines as a text of it. -/
theorem isText_pretty {value : Json} (h : value.numberFree) : IsText value value.pretty := by
  have hspells := spells_prettyAt h 0 []
  rw [List.append_nil] at hspells
  exact ⟨[], hspells, rfl⟩

/-- What is written has one value only. -/
theorem isText_pretty_iff {value value' : Json} (h : value.numberFree) :
    IsText value' value.pretty ↔ value' = value := by
  constructor
  · exact fun h' => h'.unique (isText_pretty h)
  · rintro rfl
    exact isText_pretty h

/-! ### Texts of records -/

/-- The first character of a scalar tells its type. -/
theorem readScalar_cases {c : Char} {after rest : Text} {value : Json}
    (h : readScalar c after = .ok (value, rest)) :
    (c = 'n' ∧ value = .null) ∨
      (c = 't' ∧ value = .bool true ∧ readWord "rue".toList after = .ok rest) ∨
      (c = 'f' ∧ value = .bool false ∧ readWord "alse".toList after = .ok rest) ∨
      (∃ x, value = .number x) ∨
      c = '"' ∧ ∃ t, value = .string t ∧ readString after = .ok (t, rest) := by
  rw [readScalar] at h
  split at h
  · rename_i hc
    obtain ⟨_, -, heq⟩ := Except.map_eq_ok_iff.1 h
    cases heq
    exact .inl ⟨hc, rfl⟩
  split at h
  · rename_i hc
    obtain ⟨_, hword, heq⟩ := Except.map_eq_ok_iff.1 h
    cases heq
    exact .inr (.inl ⟨hc, rfl, hword⟩)
  split at h
  · rename_i hc
    obtain ⟨_, hword, heq⟩ := Except.map_eq_ok_iff.1 h
    cases heq
    exact .inr (.inr (.inl ⟨hc, rfl, hword⟩))
  split at h
  · obtain ⟨_, -, heq⟩ := Except.map_eq_ok_iff.1 h
    cases heq
    exact .inr (.inr (.inr (.inl ⟨_, rfl⟩)))
  split at h
  · obtain ⟨_, -, heq⟩ := Except.map_eq_ok_iff.1 h
    cases heq
    exact .inr (.inr (.inr (.inl ⟨_, rfl⟩)))
  split at h
  · rename_i hc
    obtain ⟨_, hstring, heq⟩ := Except.map_eq_ok_iff.1 h
    cases heq
    exact .inr (.inr (.inr (.inr ⟨hc, _, rfl, hstring⟩)))
  · cases h

theorem readText_of_spells {t s rest : Text} (h : Spells (.string t) s rest) :
    readText s = .ok (t, rest) := by
  cases h with
  | scalar hs hvalue =>
    obtain ⟨rfl, hstring⟩ : _ ∧ _ := by simpa using readScalar_cases hvalue
    rw [readText, hs]
    exact hstring

theorem readFlag_of_spells {flag : Bool} {s rest : Text} (h : Spells (.bool flag) s rest) :
    readFlag s = .ok (flag, rest) := by
  cases h with
  | scalar hs hvalue =>
    obtain ⟨rfl, rfl, hword⟩ | ⟨rfl, rfl, hword⟩ :
        (_ ∧ _ ∧ _) ∨ _ ∧ _ ∧ _ := by simpa using readScalar_cases hvalue
    · simp [readFlag, hs, hword, Except.map]
    · simp [readFlag, hs, hword, Except.map]

/-- The fields of an object are entries of the row, if each value is one of it. -/
theorem SpellsFields.entries {fields : List Field} {row : Row fields}
    {written : List (Text × Json)} {first : Bool} {s rest : Text}
    (h : SpellsFields first written s rest)
    (hread : ∀ field ∈ written, ∀ s rest, Spells field.2 s rest →
      Row.ReadsAs fields row field.1 s rest) :
    Entries fields row first (written.map Prod.fst) s rest := by
  induction written generalizing first s with
  | nil =>
    cases h with
    | close hname => exact .close hname
  | cons field written ih =>
    rw [List.forall_mem_cons] at hread
    cases h with
    | field hname hcolon hvalue hmore =>
      exact .entry hname hcolon (hread.1 _ _ hvalue) (ih hmore hread.2)

/-- Any text of an object with the fields of a record is read as the row. -/
theorem readRecord_of_spells {shape : Shape} {row : Row shape.fields}
    {written : List (Text × Json)} {s rest : Text} (h : Spells (.object written) s rest)
    (hread : ∀ field ∈ written, ∀ s rest, Spells field.2 s rest →
      Row.ReadsAs shape.fields row field.1 s rest)
    (hfields : (shape.fields.map Field.name).Nodup) (hnames : (written.map Prod.fst).Nodup)
    (hall : ∀ field ∈ shape.fields, field.name ∈ written.map Prod.fst) :
    readRecord shape s = .ok (row, rest) := by
  cases h with
  | scalar hs hvalue => simpa using readScalar_cases hvalue
  | object hs hentries =>
    exact readRecord_of_entries hs (hentries.entries hread) hfields hnames hall

end Json

end ThresholdCheck
