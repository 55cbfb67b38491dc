import ThresholdCheck.Json.Skip

/-!
# Reading records

A record has a name and typed fields in an order. It is read from an object, whose fields may come
in any order and among others that are passed over, or from an array with the values in order. A
fault is reported where it is met, so that a wrong type is found before an error of grammar that
comes later.

## Main definitions

* `Json.FieldKind`, `Json.Field`, `Json.Shape` — what a record looks like
* `Json.Row` — the values of all fields
* `Json.readRecord` — a record of some shape
* `Json.decode` — a whole text, with a check of the values

## Main results

* `length_le_of_readKind`, `length_le_of_readEntry` — what is left is no longer than the text
-/

namespace ThresholdCheck

namespace Json

/-! ### Shapes -/

/-- The type of a field. -/
inductive FieldKind where
  | text
  | flag
  | number
  /-- A text or null; the field may be left out. -/
  | optionalText
deriving DecidableEq

namespace FieldKind

/-- The values of a field. -/
abbrev Value : FieldKind → Type
  | text => Text
  | flag => Bool
  | number => Binary64
  | optionalText => Option Text

/-- The value of a field that is left out, if it may be. -/
def absent? : (kind : FieldKind) → Option kind.Value
  | text => none
  | flag => none
  | number => none
  | optionalText => some none

end FieldKind

/-- A field of a record. -/
structure Field where
  name : Text
  kind : FieldKind

/-- A record type. -/
structure Shape where
  name : Text
  fields : List Field

/-- How a record type is named in messages. -/
def Shape.text (shape : Shape) : Text := "struct ".toList ++ shape.name

/-- How a record type is named when an array is too short for it. -/
def Shape.arrayText (shape : Shape) : Text :=
  shape.text ++ " with ".toList ++ Decimal.natural shape.fields.length ++ " elements".toList

/-- The values of the fields, in order. -/
def Row : List Field → Type
  | [] => Unit
  | field :: fields => field.kind.Value × Row fields

/-- The values met so far, in the order of the fields. -/
def Draft : List Field → Type
  | [] => Unit
  | field :: fields => Option field.kind.Value × Draft fields

/-- No value yet. -/
def Draft.empty : (fields : List Field) → Draft fields
  | [] => ()
  | _ :: fields => (none, empty fields)

/-- The row of a draft, or the first field without a value. -/
def Draft.complete : (fields : List Field) → Draft fields → Except Text (Row fields)
  | [], _ => .ok ()
  | field :: fields, (slot, more) =>
    match slot <|> field.kind.absent? with
    | none => .error field.name
    | some value =>
      match complete fields more with
      | .error name => .error name
      | .ok row => .ok (value, row)

/-! ### Values -/

/-- The fault of a value whose type is not the expected one. Scalars are read first, since they may
be malformed. -/
def wrongType (expected : Text) (s : Text) : Fault :=
  let found (result : Except Fault (Found × Text)) : Fault :=
    match result with
    | .error fault => fault
    | .ok (value, rest) => .here (.invalidType value expected) rest
  match s with
  | [] => .next .expectedValue []
  | c :: rest =>
    if c = 'n' then found ((readWord "ull".toList rest).map (Found.null, ·))
    else if c = 't' then found ((readWord "rue".toList rest).map (Found.boolean true, ·))
    else if c = 'f' then found ((readWord "alse".toList rest).map (Found.boolean false, ·))
    else if c = '-' then found ((readNumber true rest).map fun (n, after) => (n.found, after))
    else if c.isDigit then
      found ((readNumber false (c :: rest)).map fun (n, after) => (n.found, after))
    else if c = '"' then found ((readString rest).map fun (t, after) => (Found.string t, after))
    else if c = '[' then .here (.invalidType .sequence expected) s
    else if c = '{' then .here (.invalidType .map expected) s
    else .next .expectedValue s

/-- A string. -/
def readText (s : Text) : Except Fault (Text × Text) :=
  match skipBlanks s with
  | [] => .error (.next .eofInValue [])
  | c :: rest =>
    if c = '"' then readString rest else .error (wrongType "a string".toList (c :: rest))

/-- `true` or `false`. -/
def readFlag (s : Text) : Except Fault (Bool × Text) :=
  match skipBlanks s with
  | [] => .error (.next .eofInValue [])
  | c :: rest =>
    if c = 't' then (readWord "rue".toList rest).map (true, ·)
    else if c = 'f' then (readWord "alse".toList rest).map (false, ·)
    else .error (wrongType "a boolean".toList (c :: rest))

/-- A number. -/
def readFloat (s : Text) : Except Fault (Binary64 × Text) :=
  match skipBlanks s with
  | [] => .error (.next .eofInValue [])
  | c :: rest =>
    if c = '-' then (readNumber true rest).map fun (n, after) => (n.value, after)
    else if c.isDigit then
      (readNumber false (c :: rest)).map fun (n, after) => (n.value, after)
    else .error (wrongType "f64".toList (c :: rest))

/-- A string or `null`. -/
def readOptionalText (s : Text) : Except Fault (Option Text × Text) :=
  match skipBlanks s with
  | [] => .error (.next .eofInValue [])
  | c :: rest =>
    if c = 'n' then (readWord "ull".toList rest).map (none, ·)
    else (readText (c :: rest)).map fun (t, after) => (some t, after)

/-- A value of some kind. -/
def readKind : (kind : FieldKind) → Text → Except Fault (kind.Value × Text)
  | .text, s => readText s
  | .flag, s => readFlag s
  | .number, s => readFloat s
  | .optionalText, s => readOptionalText s

/-! ### Lengths -/

theorem length_le_of_map {ε α β : Type} {x : Except ε α} {f : α → β × Text} {y : β} {rest : Text}
    {n : Nat} (hx : ∀ a, x = .ok a → (f a).2.length ≤ n) (h : x.map f = .ok (y, rest)) :
    rest.length ≤ n := by
  cases x with
  | error e => simp [Except.map] at h
  | ok a =>
    simp only [Except.map, Except.ok.injEq] at h
    have := hx a rfl
    rw [h] at this
    exact this

theorem length_le_of_readText {s rest t : Text} (h : readText s = .ok (t, rest)) :
    rest.length ≤ s.length := by
  have hs := length_skipBlanks_le s
  rw [readText] at h
  split at h
  · cases h
  · rename_i c r heq
    rw [heq, List.length_cons] at hs
    split at h
    · have := length_le_of_readString h
      omega
    · cases h

theorem length_le_of_readFlag {s rest : Text} {b : Bool} (h : readFlag s = .ok (b, rest)) :
    rest.length ≤ s.length := by
  have hs := length_skipBlanks_le s
  rw [readFlag] at h
  split at h
  · cases h
  · rename_i c r heq
    rw [heq, List.length_cons] at hs
    have word : ∀ {w : Text} {v : Bool},
        (readWord w r).map (v, ·) = .ok (b, rest) → rest.length ≤ r.length :=
      fun h => length_le_of_map (fun _ ha => length_le_of_readWord ha) h
    split at h
    · have := word h
      omega
    · split at h
      · have := word h
        omega
      · cases h

theorem length_le_of_readFloat {s rest : Text} {x : Binary64} (h : readFloat s = .ok (x, rest)) :
    rest.length ≤ s.length := by
  have hs := length_skipBlanks_le s
  rw [readFloat] at h
  split at h
  · cases h
  · rename_i c r heq
    rw [heq, List.length_cons] at hs
    split at h
    · have : rest.length ≤ r.length := by
        refine length_le_of_map ?_ h
        exact fun _ ha => length_le_of_readNumber ha
      omega
    · split at h
      · have : rest.length ≤ (c :: r).length := by
          refine length_le_of_map ?_ h
          exact fun _ ha => length_le_of_readNumber ha
        rw [List.length_cons] at this
        omega
      · cases h

theorem length_le_of_readOptionalText {s rest : Text} {t : Option Text}
    (h : readOptionalText s = .ok (t, rest)) : rest.length ≤ s.length := by
  have hs := length_skipBlanks_le s
  rw [readOptionalText] at h
  split at h
  · cases h
  · rename_i c r heq
    rw [heq, List.length_cons] at hs
    split at h
    · have : rest.length ≤ r.length :=
        length_le_of_map (fun _ ha => length_le_of_readWord ha) h
      omega
    · have : rest.length ≤ (c :: r).length := by
        refine length_le_of_map ?_ h
        exact fun _ ha => length_le_of_readText ha
      rw [List.length_cons] at this
      omega

theorem length_le_of_readKind {kind : FieldKind} {s rest : Text} {value : kind.Value}
    (h : readKind kind s = .ok (value, rest)) : rest.length ≤ s.length := by
  cases kind with
  | text => exact length_le_of_readText h
  | flag => exact length_le_of_readFlag h
  | number => exact length_le_of_readFloat h
  | optionalText => exact length_le_of_readOptionalText h

/-! ### Objects -/

/-- The fault of a name that was met before. It is reported behind blanks, and behind a closing
bracket that may stand in place of the colon. -/
def duplicateFault (name : Text) (s : Text) : Fault :=
  let rest := skipBlanks s
  ⟨.duplicateField name, rest, if rest.head? = some '}' then 1 else 0⟩

/-- The draft with the value of the field of some name, whose colon comes next; `none` if there is
no such field. -/
def Draft.readField? : (fields : List Field) → Draft fields → Text → Text →
    Option (Except Fault (Draft fields × Text))
  | [], _, _, _ => none
  | field :: fields, (slot, more), name, s =>
    if field.name = name then
      some <|
        if slot.isSome then .error (duplicateFault name s)
        else do
          let rest ← readColon s
          let (value, rest) ← readKind field.kind rest
          return ((some value, more), rest)
    else
      (readField? fields more name s).map fun result =>
        result.map fun (more, rest) => ((slot, more), rest)

/-- The draft after one entry of an object, whose colon comes next. -/
def Draft.readEntry (fields : List Field) (draft : Draft fields) (name : Text) (s : Text) :
    Except Fault (Draft fields × Text) :=
  match Draft.readField? fields draft name s with
  | some result => result
  | none => do
    let rest ← readColon s
    let rest ← skipValue rest
    return (draft, rest)

theorem length_le_of_readField? {fields : List Field} {draft after : Draft fields}
    {name s rest : Text} (h : Draft.readField? fields draft name s = some (.ok (after, rest))) :
    rest.length ≤ s.length := by
  induction fields generalizing rest with
  | nil => cases h
  | cons field fields ih =>
    obtain ⟨slot, more⟩ := draft
    simp only [Draft.readField?] at h
    split at h
    · simp only [Option.some.injEq] at h
      split at h
      · cases h
      · cases hc : readColon s with
        | error e => simp [hc, bind, Except.bind] at h
        | ok colon =>
          cases hk : readKind field.kind colon with
          | error e => simp [hc, hk, bind, Except.bind] at h
          | ok result =>
            obtain ⟨value, last⟩ := result
            simp only [hc, hk, bind, Except.bind, pure, Except.pure, Except.ok.injEq] at h
            have h1 := length_le_of_readColon hc
            have h2 := length_le_of_readKind hk
            cases h
            omega
    · cases hr : Draft.readField? fields more name s with
      | none => simp [hr] at h
      | some result =>
        simp only [hr, Option.map_some, Option.some.injEq] at h
        exact length_le_of_map (fun (d, r) hd => ih (by rw [hr, hd])) h

theorem length_le_of_readEntry {fields : List Field} {draft after : Draft fields}
    {name s rest : Text} (h : Draft.readEntry fields draft name s = .ok (after, rest)) :
    rest.length ≤ s.length := by
  rw [Draft.readEntry] at h
  split at h
  · rename_i heq
    rw [h] at heq
    exact length_le_of_readField? heq
  · cases hc : readColon s with
    | error e => simp [hc, bind, Except.bind] at h
    | ok colon =>
      cases hv : skipValue colon with
      | error e => simp [hc, hv, bind, Except.bind] at h
      | ok last =>
        simp only [hc, hv, bind, Except.bind, pure, Except.pure, Except.ok.injEq,
          Prod.mk.injEq] at h
        have h1 := length_le_of_readColon hc
        have h2 := length_le_of_skipValue hv
        rw [← h.2]
        omega

/-- The name of the next entry of an object, with the text after it; `none` at the closing bracket,
with the text after that. -/
def readName (first : Bool) (s : Text) : Except Fault (Option Text × Text) :=
  match skipBlanks s with
  | [] => .error (.next .eofInObject [])
  | c :: rest =>
    if c = '}' then .ok (none, rest)
    else if first then
      if c = '"' then (readString rest).map fun (name, after) => (some name, after)
      else .error (.next .keyNotString (c :: rest))
    else if c = ',' then
      match skipBlanks rest with
      | [] => .error (.next .eofInValue [])
      | d :: rest =>
        if d = '"' then (readString rest).map fun (name, after) => (some name, after)
        else if d = '}' then .error (.next .trailingComma (d :: rest))
        else .error (.next .keyNotString (d :: rest))
    else .error (.next .expectedObjectEnd (c :: rest))

theorem length_lt_of_readName {first : Bool} {s rest : Text} {name : Option Text}
    (h : readName first s = .ok (name, rest)) : rest.length < s.length := by
  have hs := length_skipBlanks_le s
  have string : ∀ {t : Text},
      (readString t).map (fun (name, after) => (some name, after)) = .ok (name, rest) →
        rest.length ≤ t.length :=
    fun h => length_le_of_map (fun (t, after) ha => Nat.le_of_lt (length_le_of_readString ha)) h
  rw [readName] at h
  split at h
  · cases h
  · rename_i c r heq
    rw [heq, List.length_cons] at hs
    split at h
    · cases h
      omega
    · split at h
      · split at h
        · have := string h
          omega
        · cases h
      · split at h
        · have hr := length_skipBlanks_le r
          split at h
          · cases h
          · rename_i d r2 heq2
            rw [heq2, List.length_cons] at hr
            split at h
            · have := string h
              omega
            · split at h <;> cases h
        · cases h

/-- The draft after all entries of an object, and the text after its closing bracket. -/
def readEntries (fields : List Field) (draft : Draft fields) (first : Bool) (s : Text) :
    Except Fault (Draft fields × Text) :=
  match hn : readName first s with
  | .error fault => .error fault
  | .ok (none, rest) => .ok (draft, rest)
  | .ok (some name, rest) =>
    match he : draft.readEntry fields name rest with
    | .error fault => .error fault
    | .ok (draft, rest) =>
      have := length_lt_of_readName hn
      have := length_le_of_readEntry he
      readEntries fields draft false rest
termination_by s.length

/-! ### Arrays -/

/-- The text at the next item of an array; `none` at the closing bracket, with the text after
it. -/
def nextItem (first : Bool) (s : Text) : Except Fault (Bool × Text) :=
  match skipBlanks s with
  | [] => .error (.next .eofInList [])
  | c :: rest =>
    if c = ']' then .ok (false, rest)
    else if first then .ok (true, c :: rest)
    else if c = ',' then
      match skipBlanks rest with
      | [] => .error (.next .eofInValue [])
      | d :: rest =>
        if d = ']' then .error (.next .trailingComma (d :: rest)) else .ok (true, d :: rest)
    else .error (.next .expectedListEnd (c :: rest))

/-- The values of the fields from the items of an array. -/
def readItems (shape : Shape) (index : Nat) : (fields : List Field) → Text →
    Except Fault (Row fields × Text)
  | [], s => .ok ((), s)
  | field :: fields, s => do
    let (more, rest) ← nextItem (index = 0) s
    if more then
      let (value, rest) ← readKind field.kind rest
      let (row, rest) ← readItems shape (index + 1) fields rest
      return ((value, row), rest)
    else .error (.here (.invalidLength index shape.arrayText) rest)

/-- The text after the closing bracket of an array, which comes next. -/
def readListEnd (s : Text) : Except Fault Text :=
  match skipBlanks s with
  | [] => .error (.next .eofInList [])
  | c :: rest =>
    if c = ']' then .ok rest
    else if c = ',' then
      let rest := skipBlanks rest
      .error (.next (if rest.head? = some ']' then .trailingComma else .trailingCharacters) rest)
    else .error (.next .trailingCharacters (c :: rest))

/-! ### Records -/

/-- A record of some shape. -/
def readRecord (shape : Shape) (s : Text) : Except Fault (Row shape.fields × Text) :=
  match skipBlanks s with
  | [] => .error (.next .eofInValue [])
  | c :: rest =>
    if c = '[' then do
      let (row, rest) ← readItems shape 0 shape.fields rest
      let rest ← readListEnd rest
      return (row, rest)
    else if c = '{' then do
      let (draft, rest) ← readEntries shape.fields (.empty shape.fields) true rest
      match draft.complete shape.fields with
      | .error name => .error (.here (.missingField name) rest)
      | .ok row => return (row, rest)
    else .error (wrongType shape.text (c :: rest))

/-- A record that is a whole text, once its values have passed a check. Nothing but blanks may
follow it; the check comes before that. -/
def decode {α : Type} (shape : Shape) (check : Row shape.fields → Except Text α) (whole : Text) :
    Except ReadError α :=
  match readRecord shape whole with
  | .error fault => .error (fault.report whole)
  | .ok (row, rest) =>
    match check row with
    | .error reason => .error ⟨.refused reason, none⟩
    | .ok value =>
      match skipBlanks rest with
      | [] => .ok value
      | rest => .error ((Fault.next .trailingCharacters rest).report whole)

end Json

end ThresholdCheck
