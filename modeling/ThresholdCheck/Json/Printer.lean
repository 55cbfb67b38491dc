import ThresholdCheck.Decimal.Shortest

/-!
# Writing JSON

A value is a tree; objects keep their fields in order. It is written compactly, without any blank,
or over several lines with two blanks for each level.

## Main definitions

* `Json` — a value
* `Json.quoted` — a string with its escapes
* `Json.numberLayout` — the shape of numbers
* `Json.compact`, `Json.pretty` — the two ways of writing
* `Json.sortFields` — fields in the order of their names

## Main results

* `Json.mem_sortFields` — sorting keeps the fields
-/

namespace ThresholdCheck

/-- A JSON value. -/
inductive Json where
  | null
  | bool (value : Bool)
  | number (value : Binary64)
  | string (value : Text)
  | array (items : List Json)
  | object (fields : List (Text × Json))
deriving Inhabited

namespace Json

/-- A text if it is set. -/
def optional : Option Text → Json
  | some t => string t
  | none => null

/-! ### Scalars -/

/-- Four hexadecimal digits. -/
def hex4 (n : Nat) : Text :=
  let digits := Nat.toDigits 16 n
  List.replicate (4 - digits.length) '0' ++ digits

/-- A character inside a string: quote, backslash and the controls below the blank are escaped. -/
def escape (c : Char) : Text :=
  if c = '"' then ['\\', '"']
  else if c = '\\' then ['\\', '\\']
  else if c = '\x08' then ['\\', 'b']
  else if c = '\x0c' then ['\\', 'f']
  else if c = '\n' then ['\\', 'n']
  else if c = '\r' then ['\\', 'r']
  else if c = '\t' then ['\\', 't']
  else if c.toNat < 0x20 then ['\\', 'u'] ++ hex4 c.toNat
  else [c]

/-- A string with its quotes. -/
def quoted (t : Text) : Text := '"' :: (t.flatMap escape ++ ['"'])

/-- Numbers from 0.00001 to below 10 ^ 16 are positional; exponents have a sign; ties go to the
even digit. -/
def numberLayout : DecimalLayout := ⟨-4, 16, true, .toEven⟩

/-- A number. JSON has no infinities and no NaN; they are written as null. -/
def numberText : Binary64 → Text
  | .finite negative m => (Binary64.finite negative m).shortestText numberLayout
  | _ => "null".toList

/-! ### Compact -/

mutual

/-- A value without blanks. -/
def compact : Json → Text
  | null => "null".toList
  | bool value => if value then "true".toList else "false".toList
  | number value => numberText value
  | string value => quoted value
  | array items => '[' :: (compactItems items ++ [']'])
  | object fields => '{' :: (compactFields fields ++ ['}'])

/-- Items with commas between them. -/
def compactItems : List Json → Text
  | [] => []
  | item :: items => compact item ++ (if items.isEmpty then [] else [',']) ++ compactItems items

/-- Fields with commas between them. -/
def compactFields : List (Text × Json) → Text
  | [] => []
  | field :: fields =>
    compactField field ++ (if fields.isEmpty then [] else [',']) ++ compactFields fields

/-- A name, a colon and a value. -/
def compactField : Text × Json → Text
  | (name, value) => quoted name ++ ':' :: compact value

end

/-! ### Over several lines -/

/-- A new line at some level. -/
def newLine (level : Nat) : Text := '\n' :: List.replicate (2 * level) ' '

mutual

/-- A value whose brackets stand at some level. -/
def prettyAt (level : Nat) : Json → Text
  | null => "null".toList
  | bool value => if value then "true".toList else "false".toList
  | number value => numberText value
  | string value => quoted value
  | array items =>
    if items.isEmpty then "[]".toList
    else '[' :: (prettyItems (level + 1) items ++ newLine level ++ [']'])
  | object fields =>
    if fields.isEmpty then ['{', '}']
    else '{' :: (prettyFields (level + 1) fields ++ newLine level ++ ['}'])

/-- Items, each on a line of its own. -/
def prettyItems (level : Nat) : List Json → Text
  | [] => []
  | item :: items =>
    newLine level ++ prettyAt level item ++ (if items.isEmpty then [] else [',']) ++
      prettyItems level items

/-- Fields, each on a line of its own. -/
def prettyFields (level : Nat) : List (Text × Json) → Text
  | [] => []
  | field :: fields =>
    newLine level ++ prettyField level field ++ (if fields.isEmpty then [] else [',']) ++
      prettyFields level fields

/-- A name, a colon, a blank and a value. -/
def prettyField (level : Nat) : Text × Json → Text
  | (name, value) => quoted name ++ ": ".toList ++ prettyAt level value

end

/-- A value over several lines. -/
def pretty (value : Json) : Text := prettyAt 0 value

/-! ### Order of fields -/

/-- A field put before the first one with a greater name. -/
def insertField (field : Text × Json) : List (Text × Json) → List (Text × Json)
  | [] => [field]
  | other :: fields =>
    if other.1 < field.1 then other :: insertField field fields else field :: other :: fields

/-- Fields in the order of their names. -/
def sortFields (fields : List (Text × Json)) : List (Text × Json) := fields.foldr insertField []

theorem mem_insertField {field other : Text × Json} {fields : List (Text × Json)} :
    other ∈ insertField field fields ↔ other = field ∨ other ∈ fields := by
  induction fields with
  | nil => simp [insertField]
  | cons f fs ih =>
    rw [insertField]
    split
    · simp [ih]
      grind
    · simp

/-- Sorting keeps the fields. -/
theorem mem_sortFields {field : Text × Json} {fields : List (Text × Json)} :
    field ∈ sortFields fields ↔ field ∈ fields := by
  induction fields with
  | nil => simp [sortFields]
  | cons f fs ih =>
    rw [List.mem_cons, ← ih]
    exact mem_insertField

end Json

end ThresholdCheck
