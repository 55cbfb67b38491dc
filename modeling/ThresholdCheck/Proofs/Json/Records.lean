import ThresholdCheck.Json.Record
import ThresholdCheck.Proofs.Except
import ThresholdCheck.Proofs.Json.Strings

/-!
# Records are read as they are written

A record is read by filling a draft, one entry of the object after the other. The invariant is that
the draft holds the values of those fields whose names were seen, and no others; it says nothing
about the order of the entries, so that a record can be written in any order, with any blanks
between its parts, and is still read as the same row.

## Main definitions

* `Json.Draft.ofRow` — the draft with the values of the fields that were seen
* `Json.Row.ReadsAs` — a text that begins with the value of a field
* `Json.Entries` — a text that holds entries of a row, up to the closing bracket
* `Json.fieldsOn` — what is left of a written object, from some field on

## Main results

* `Json.readEntries_of_ok`, `Json.readEntries_of_error` — one entry after the other
* `Json.Entries.readEntries` — reading entries fills the draft with their values
* `Json.readRecord_of_entries` — an object with an entry for every field is read as the row
* `Json.readRecord_compact` — a record written without blanks is read as the row
* `Json.decode_eq_ok_iff` — what a text is decoded as
-/

namespace ThresholdCheck

namespace Json

/-! ### Drafts of a row -/

/-- The draft that holds the values of a row under the names that were seen. -/
def Draft.ofRow : (fields : List Field) → Row fields → List Text → Draft fields
  | [], _, _ => ()
  | field :: fields, (value, row), seen =>
    (if field.name ∈ seen then some value else none, ofRow fields row seen)

/-- The text `s` begins with the value that the row has under a name; `rest` follows it. -/
def Row.ReadsAs : (fields : List Field) → Row fields → Text → Text → Text → Prop
  | [], _, _, _, _ => False
  | field :: fields, (value, row), name, s, rest =>
    if field.name = name then readKind field.kind s = .ok (value, rest)
    else ReadsAs fields row name s rest

theorem Draft.empty_eq_ofRow (fields : List Field) (row : Row fields) :
    Draft.empty fields = Draft.ofRow fields row [] := by
  induction fields with
  | nil => rfl
  | cons field fields ih =>
    obtain ⟨value, row⟩ := row
    exact congrArg (Prod.mk none) (ih row)

/-- A name that no field has changes nothing. -/
theorem Draft.ofRow_cons_of_not_mem {fields : List Field} {row : Row fields} {name : Text}
    {seen : List Text} (h : name ∉ fields.map Field.name) :
    Draft.ofRow fields row (name :: seen) = Draft.ofRow fields row seen := by
  induction fields with
  | nil => rfl
  | cons field fields ih =>
    obtain ⟨value, row⟩ := row
    simp only [List.map_cons, List.mem_cons, not_or] at h
    have hslot : (if field.name ∈ name :: seen then some value else none) =
        if field.name ∈ seen then some value else none := by simp [Ne.symm h.1]
    exact congrArg₂ Prod.mk hslot (ih h.2)

/-- Once every name was seen the draft is the row. -/
theorem Draft.complete_ofRow {fields : List Field} {row : Row fields} {seen : List Text}
    (h : ∀ field ∈ fields, field.name ∈ seen) :
    Draft.complete fields (Draft.ofRow fields row seen) = .ok row := by
  induction fields with
  | nil => rfl
  | cons field fields ih =>
    obtain ⟨value, row⟩ := row
    obtain ⟨hfield, hfields⟩ := List.forall_mem_cons.1 h
    simp [Draft.ofRow, Draft.complete, hfield, ih hfields]

/-- An entry whose name was not seen before adds its value to the draft. -/
theorem Draft.readField?_ofRow {fields : List Field} {row : Row fields} {name s after rest : Text}
    {seen : List Text} (hnodup : (fields.map Field.name).Nodup) (hseen : name ∉ seen)
    (hcolon : readColon s = .ok after) (hread : Row.ReadsAs fields row name after rest) :
    Draft.readField? fields (Draft.ofRow fields row seen) name s =
      some (.ok (Draft.ofRow fields row (name :: seen), rest)) := by
  induction fields with
  | nil => exact hread.elim
  | cons field fields ih =>
    obtain ⟨value, row⟩ := row
    rw [List.map_cons, List.nodup_cons] at hnodup
    by_cases hname : field.name = name
    · subst hname
      simp only [Row.ReadsAs, if_true] at hread
      simp only [Draft.readField?, Draft.ofRow, hseen, if_true, if_false, Option.isSome_none,
        Bool.false_eq_true, List.mem_cons_self, ofRow_cons_of_not_mem hnodup.1]
      refine congrArg some (Except.bind_eq_ok_iff.2 ⟨after, hcolon, ?_⟩)
      exact Except.bind_eq_ok_iff.2 ⟨_, hread, rfl⟩
    · simp only [Row.ReadsAs, if_neg hname] at hread
      simp [Draft.readField?, Draft.ofRow, hname, ih hnodup.2 hread, Except.map]

/-! ### Entries -/

/-- The text `s` holds entries of the row under the given names, in this order, and a closing
bracket; `rest` follows it. -/
inductive Entries (fields : List Field) (row : Row fields) :
    Bool → List Text → Text → Text → Prop
  | close {first : Bool} {s rest : Text} (hname : readName first s = .ok (none, rest)) :
      Entries fields row first [] s rest
  | entry {first : Bool} {name : Text} {names : List Text} {s s₁ s₂ s₃ rest : Text}
      (hname : readName first s = .ok (some name, s₁)) (hcolon : readColon s₁ = .ok s₂)
      (hvalue : Row.ReadsAs fields row name s₂ s₃)
      (hmore : Entries fields row false names s₃ rest) :
      Entries fields row first (name :: names) s rest

section Steps

variable {fields : List Field} {draft after : Draft fields} {first : Bool} {name s s₁ s₂ : Text}

/-- After an entry the reading goes on with its draft. -/
theorem readEntries_of_ok (hname : readName first s = .ok (some name, s₁))
    (hentry : draft.readEntry fields name s₁ = .ok (after, s₂)) :
    readEntries fields draft first s = readEntries fields after false s₂ := by
  rw [readEntries]
  split
  · simp_all
  · simp_all
  · rename_i other s' hname'
    rw [hname] at hname'
    cases hname'
    split
    · simp_all
    · simp_all

/-- The first entry with a fault ends the reading. -/
theorem readEntries_of_error {fault : Fault} (hname : readName first s = .ok (some name, s₁))
    (hentry : draft.readEntry fields name s₁ = .error fault) :
    readEntries fields draft first s = .error fault := by
  rw [readEntries]
  split
  · simp_all
  · simp_all
  · rename_i other s' hname'
    rw [hname] at hname'
    cases hname'
    split
    · simp_all
    · simp_all

/-- A value that cannot be read is the fault of its entry. -/
theorem Draft.readEntry_of_error {row : Row fields} {field : Field} {seen : List Text}
    {fault : Fault} (hnodup : (fields.map Field.name).Nodup) (hfield : field ∈ fields)
    (hseen : field.name ∉ seen) (hcolon : readColon s = .ok s₁)
    (hread : readKind field.kind s₁ = .error fault) :
    (Draft.ofRow fields row seen).readEntry fields field.name s = .error fault := by
  have hfault : Draft.readField? fields (Draft.ofRow fields row seen) field.name s =
      some (.error fault) := by
    induction fields with
    | nil => cases hfield
    | cons other fields ih =>
      obtain ⟨value, row⟩ := row
      rw [List.map_cons, List.nodup_cons] at hnodup
      rcases List.mem_cons.1 hfield with rfl | hmore
      · simp [Draft.readField?, Draft.ofRow, hseen, hcolon, hread, bind, Except.bind]
      · have hne : other.name ≠ field.name := fun heq =>
          hnodup.1 (heq ▸ List.mem_map_of_mem hmore)
        simp [Draft.readField?, Draft.ofRow, hne, ih hnodup.2 hmore, Except.map]
  rw [Draft.readEntry, hfault]

end Steps

/-- Reading entries adds their values to the draft. -/
theorem Entries.readEntries {fields : List Field} {row : Row fields} {first : Bool}
    {names : List Text} {s rest : Text} (h : Entries fields row first names s rest)
    (hfields : (fields.map Field.name).Nodup) (seen : List Text) (hnames : names.Nodup)
    (hseen : ∀ name ∈ names, name ∉ seen) :
    Json.readEntries fields (Draft.ofRow fields row seen) first s =
      .ok (Draft.ofRow fields row (names.reverse ++ seen), rest) := by
  induction h generalizing seen with
  | close hname =>
    rw [Json.readEntries]
    split <;> simp_all
  | @entry first name names s s₁ s₂ s₃ rest hname hcolon hvalue hmore ih =>
    rw [List.nodup_cons] at hnames
    obtain ⟨hfirst, hothers⟩ := List.forall_mem_cons.1 hseen
    have hentry : Draft.readEntry fields (Draft.ofRow fields row seen) name s₁ =
        .ok (Draft.ofRow fields row (name :: seen), s₃) := by
      rw [Draft.readEntry, Draft.readField?_ofRow hfields hfirst hcolon hvalue]
    have hrest := ih (name :: seen) hnames.2 fun other hother => by
      simp only [List.mem_cons, not_or]
      exact ⟨fun heq => hnames.1 (heq ▸ hother), hothers other hother⟩
    rw [readEntries_of_ok hname hentry, hrest]
    simp

/-- An object with one entry for every field is read as the row. -/
theorem readRecord_of_entries {shape : Shape} {row : Row shape.fields} {names : List Text}
    {s after rest : Text} (hopen : skipBlanks s = '{' :: after)
    (h : Entries shape.fields row true names after rest)
    (hfields : (shape.fields.map Field.name).Nodup) (hnames : names.Nodup)
    (hall : ∀ field ∈ shape.fields, field.name ∈ names) : readRecord shape s = .ok (row, rest) := by
  have hentries := h.readEntries hfields [] hnames (by simp)
  rw [← Draft.empty_eq_ofRow, List.append_nil] at hentries
  have hcomplete : Draft.complete shape.fields (Draft.ofRow shape.fields row names.reverse) =
      .ok row := Draft.complete_ofRow fun field hfield => by simpa using hall field hfield
  rw [readRecord, hopen]
  simp only [Char.reduceEq, if_false, if_true]
  exact Except.bind_eq_ok_iff.2 ⟨_, hentries, by simp only [hcomplete]; rfl⟩

/-! ### Compact records -/

theorem skipBlanks_of_not_blank {c : Char} (h : isBlank c = false) (s : Text) :
    skipBlanks (c :: s) = c :: s := by
  simp [skipBlanks, h]

theorem readName_close (first : Bool) (rest : Text) :
    readName first ('}' :: rest) = .ok (none, rest) := by
  rw [readName, skipBlanks_of_not_blank rfl]
  rfl

theorem readName_first (name rest : Text) :
    readName true (quoted name ++ rest) = .ok (some name, rest) := by
  rw [quoted_append, readName, skipBlanks_of_not_blank rfl]
  simp [readString_flatMap_escape, Except.map]

theorem readName_next (name rest : Text) :
    readName false (',' :: (quoted name ++ rest)) = .ok (some name, rest) := by
  rw [quoted_append, readName, skipBlanks_of_not_blank rfl]
  simp [skipBlanks_of_not_blank (c := '"') rfl, readString_flatMap_escape, Except.map]

theorem readColon_colon (rest : Text) : readColon (':' :: rest) = .ok rest := by
  rw [readColon, skipBlanks_of_not_blank rfl]
  rfl

theorem readText_quoted (t rest : Text) : readText (quoted t ++ rest) = .ok (t, rest) := by
  rw [quoted_append, readText, skipBlanks_of_not_blank rfl]
  simp [readString_flatMap_escape]

theorem readFlag_compact (flag : Bool) (rest : Text) :
    readFlag (compact (.bool flag) ++ rest) = .ok (flag, rest) := by
  cases flag with
  | false =>
    rw [compact, readFlag]
    simp [skipBlanks_of_not_blank (c := 'f') rfl, readWord, Except.map]
  | true =>
    rw [compact, readFlag]
    simp [skipBlanks_of_not_blank (c := 't') rfl, readWord, Except.map]

theorem readOptionalText_compact (t : Option Text) (rest : Text) :
    readOptionalText (compact (.optional t) ++ rest) = .ok (t, rest) := by
  cases t with
  | none =>
    simp [optional, compact, readOptionalText, skipBlanks_of_not_blank (c := 'n') rfl, readWord,
      Except.map]
  | some t =>
    have hquoted := readText_quoted t rest
    rw [quoted_append] at hquoted
    simp [optional, compact, quoted_append, readOptionalText,
      skipBlanks_of_not_blank (c := '"') rfl, hquoted, Except.map]

/-- In the place of a number null is refused. -/
theorem readFloat_null (rest : Text) :
    readFloat ("null".toList ++ rest) =
      .error (.here (.invalidType .null "f64".toList) rest) := by
  simp [readFloat, skipBlanks_of_not_blank (c := 'n') rfl, wrongType, readWord, Except.map]

/-- What can follow the value of an entry. -/
def EndsEntry (s : Text) : Prop := s.head? = some ',' ∨ s.head? = some '}'

/-- The comma before fields or items, unless they come first or there are none. -/
def commaBefore {α : Type} (first : Bool) (written : List α) : Text :=
  if first || written.isEmpty then [] else [',']

/-- What is left of an object that is written without blanks, from some field on. -/
def fieldsOn (first : Bool) (written : List (Text × Json)) (rest : Text) : Text :=
  commaBefore first written ++ (compactFields written ++ '}' :: rest)

theorem endsEntry_fieldsOn (written : List (Text × Json)) (rest : Text) :
    EndsEntry (fieldsOn false written rest) := by
  cases written with
  | nil => exact .inr rfl
  | cons _ _ => exact .inl rfl

theorem fieldsOn_cons (first : Bool) (name : Text) (value : Json) (written : List (Text × Json))
    (rest : Text) :
    fieldsOn first ((name, value) :: written) rest =
      commaBefore first ((name, value) :: written) ++
        (quoted name ++ ':' :: (compact value ++ fieldsOn false written rest)) := by
  simp [fieldsOn, commaBefore, compactFields, compactField]

/-- Fields without blanks are entries of the row, if each value is one of it. -/
theorem entries_fieldsOn {fields : List Field} {row : Row fields} {written : List (Text × Json)}
    (hread : ∀ field ∈ written, ∀ s, EndsEntry s →
      Row.ReadsAs fields row field.1 (compact field.2 ++ s) s) (first : Bool) (rest : Text) :
    Entries fields row first (written.map Prod.fst) (fieldsOn first written rest) rest := by
  induction written generalizing first with
  | nil =>
    have hclose : fieldsOn first [] rest = '}' :: rest := by
      simp [fieldsOn, commaBefore, compactFields]
    rw [hclose]
    exact .close (readName_close first rest)
  | cons field written ih =>
    obtain ⟨name, value⟩ := field
    obtain ⟨hvalue, hmore⟩ := List.forall_mem_cons.1 hread
    rw [fieldsOn_cons]
    refine .entry ?_ (readColon_colon _) (hvalue _ (endsEntry_fieldsOn written rest))
      (ih hmore false)
    cases first with
    | true => exact readName_first name _
    | false => exact readName_next name _

/-- A record written without blanks is read as its row. -/
theorem readRecord_compact {shape : Shape} {row : Row shape.fields} {written : List (Text × Json)}
    (hread : ∀ field ∈ written, ∀ s, EndsEntry s →
      Row.ReadsAs shape.fields row field.1 (compact field.2 ++ s) s)
    (hfields : (shape.fields.map Field.name).Nodup) (hnames : (written.map Prod.fst).Nodup)
    (hall : ∀ field ∈ shape.fields, field.name ∈ written.map Prod.fst) (rest : Text) :
    readRecord shape (compact (.object written) ++ rest) = .ok (row, rest) := by
  have hopen : skipBlanks (compact (.object written) ++ rest) =
      '{' :: (compactFields written ++ '}' :: rest) := by
    simp [compact, skipBlanks_of_not_blank (c := '{') rfl]
  exact readRecord_of_entries hopen (entries_fieldsOn hread true rest) hfields hnames hall

/-! ### Whole texts -/

/-- A text is decoded as a value if it is a record whose row passes the check with that value, and
nothing but blanks follows. -/
theorem decode_eq_ok_iff {α : Type} {shape : Shape} {check : Row shape.fields → Except Text α}
    {whole : Text} {value : α} :
    decode shape check whole = .ok value ↔
      ∃ row rest, readRecord shape whole = .ok (row, rest) ∧ check row = .ok value ∧
        skipBlanks rest = [] := by
  rw [decode]
  constructor
  · intro h
    split at h
    · cases h
    · rename_i row rest hrecord
      split at h
      · cases h
      · rename_i hcheck
        split at h
        · rename_i hblank
          cases h
          exact ⟨row, rest, hrecord, hcheck, hblank⟩
        · cases h
  · rintro ⟨row, rest, hrecord, hcheck, hblank⟩
    simp only [hrecord, hcheck, hblank]

end Json

end ThresholdCheck
