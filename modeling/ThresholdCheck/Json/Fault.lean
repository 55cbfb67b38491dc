import ThresholdCheck.Json.Printer
import ThresholdCheck.Text.Quoted
import ThresholdCheck.Text.Utf8

/-!
# What can be wrong with a JSON text

A fault is a cause and the place where reading stopped. The place is kept as the rest of the text,
with a count of bytes looked at beyond it; line and column follow from the whole text.

## Main definitions

* `Json.Found` — what stands where something else was expected
* `Json.Cause` — the causes, with their category and their wording
* `Json.Fault` — a cause and its place during reading
* `Json.Position` — line and column, counted in bytes
* `Json.ReadError` — a cause with its position, as it is reported
-/

namespace ThresholdCheck

namespace Json

/-- What stands where a value of another type was expected. -/
inductive Found where
  | null
  | boolean (value : Bool)
  | integer (value : Int)
  | float (value : Binary64)
  | string (value : Text)
  | sequence
  | map
deriving DecidableEq

/-- The wording for a value that was found. -/
def Found.text : Found → Text
  | null => "null".toList
  | boolean value => "boolean `".toList ++ (if value then "true" else "false").toList ++ "`".toList
  | integer value => "integer `".toList ++ Decimal.integer value ++ "`".toList
  | float value => "floating point `".toList ++ numberText value ++ "`".toList
  | string value => "string ".toList ++ Text.quoted value
  | sequence => "sequence".toList
  | map => "map".toList

/-- Whether a text ends too early, breaks the grammar, or holds the wrong data. -/
inductive Category where
  | eof
  | grammar
  | data
deriving DecidableEq

/-- Why a text cannot be read. -/
inductive Cause where
  | eofInList
  | eofInObject
  | eofInString
  | eofInValue
  | expectedColon
  | expectedListEnd
  | expectedObjectEnd
  | expectedIdent
  | expectedValue
  | invalidEscape
  | invalidNumber
  | numberOutOfRange
  | controlCharacter
  | keyNotString
  | loneSurrogate
  | surrogateEnd
  | trailingComma
  | trailingCharacters
  /-- A value of the wrong type. -/
  | invalidType (found : Found) (expected : Text)
  /-- A sequence with too few items. -/
  | invalidLength (length : Nat) (expected : Text)
  | missingField (name : Text)
  | duplicateField (name : Text)
  /-- The data was read but is refused for a reason of its own. -/
  | refused (reason : Text)
deriving DecidableEq

namespace Cause

/-- The category of a cause. -/
def category : Cause → Category
  | eofInList | eofInObject | eofInString | eofInValue => .eof
  | invalidType .. | invalidLength .. | missingField _ | duplicateField _ | refused _ => .data
  | _ => .grammar

/-- The wording of a cause, without its position. -/
def text : Cause → Text
  | eofInList => "EOF while parsing a list".toList
  | eofInObject => "EOF while parsing an object".toList
  | eofInString => "EOF while parsing a string".toList
  | eofInValue => "EOF while parsing a value".toList
  | expectedColon => "expected `:`".toList
  | expectedListEnd => "expected `,` or `]`".toList
  | expectedObjectEnd => "expected `,` or `\x7d`".toList
  | expectedIdent => "expected ident".toList
  | expectedValue => "expected value".toList
  | invalidEscape => "invalid escape".toList
  | invalidNumber => "invalid number".toList
  | numberOutOfRange => "number out of range".toList
  | controlCharacter =>
    "control character (\\u0000-\\u001F) found while parsing a string".toList
  | keyNotString => "key must be a string".toList
  | loneSurrogate => "lone leading surrogate in hex escape".toList
  | surrogateEnd => "unexpected end of hex escape".toList
  | trailingComma => "trailing comma".toList
  | trailingCharacters => "trailing characters".toList
  | invalidType found expected =>
    "invalid type: ".toList ++ found.text ++ ", expected ".toList ++ expected
  | invalidLength length expected =>
    "invalid length ".toList ++ Decimal.natural length ++ ", expected ".toList ++ expected
  | missingField name => "missing field `".toList ++ name ++ "`".toList
  | duplicateField name => "duplicate field `".toList ++ name ++ "`".toList
  | refused reason => reason

end Cause

/-- A cause, the text that was left when it arose, and how many bytes of that text had been looked
at. -/
structure Fault where
  cause : Cause
  rest : Text
  ahead : Nat
deriving DecidableEq

/-- A fault where reading stands. -/
def Fault.here (cause : Cause) (rest : Text) : Fault := ⟨cause, rest, 0⟩

/-- A fault of the byte that comes next. -/
def Fault.next (cause : Cause) (rest : Text) : Fault := ⟨cause, rest, 1⟩

/-- Line and column of a byte. -/
structure Position where
  line : Nat
  column : Nat
deriving DecidableEq

/-- The position some bytes further in a text; the end of the text stops it. -/
def Position.advance (position : Position) : Nat → Text → Position
  | _, [] => position
  | 0, _ => position
  | bytes + 1, c :: rest =>
    if c = '\n' then advance ⟨position.line + 1, 0⟩ bytes rest
    else
      let width := min (bytes + 1) c.utf8Size
      advance ⟨position.line, position.column + width⟩ (bytes + 1 - width) rest

/-- The position of a fault in the text it is about. -/
def Fault.position (whole : Text) (fault : Fault) : Position :=
  Position.advance ⟨1, 0⟩ (Utf8.size whole - Utf8.size fault.rest + fault.ahead) whole

/-- What is reported: data that is refused has no position. -/
structure ReadError where
  cause : Cause
  position : Option Position
deriving DecidableEq

/-- The report of a fault. -/
def Fault.report (whole : Text) (fault : Fault) : ReadError :=
  ⟨fault.cause, some (fault.position whole)⟩

/-- The whole wording. -/
def ReadError.message (e : ReadError) : Text :=
  match e.position with
  | none => e.cause.text
  | some p =>
    e.cause.text ++ " at line ".toList ++ Decimal.natural p.line ++
      " column ".toList ++ Decimal.natural p.column

end Json

end ThresholdCheck
