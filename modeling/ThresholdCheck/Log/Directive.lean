import ThresholdCheck.Decimal.Numeral
import ThresholdCheck.Log.Event
import ThresholdCheck.Pattern.Reader
import ThresholdCheck.Text.Utf8

/-!
# Directives of a log filter

A directive is a level, a target, or a target and a level after an equals sign. After the target, in
brackets, the name of a span may stand, and a field in braces. A target stands for all targets that
begin with it. Without a level all are meant.

## Main definitions

* `Log.Level.read?` — the bound that a level's name or number sets
* `Log.Directive` — one directive
* `Log.Directive.applies`, `Log.Directive.admits` — what it says of an event
* `Log.Directive.Fault` — why a directive cannot be read
* `Log.Directive.read` — the directive of a text
-/

namespace ThresholdCheck

namespace Log

/-! ### Levels -/

/-- All levels, the weightiest first. -/
def Level.all : List Level := [error, warn, info, debug, trace]

/-- The bound that a name in any case, or a number from zero on, sets. The bound `none` holds back
everything. -/
def Level.read? (t : Text) : Option (Option Level) :=
  let digits := if t.head? = some '+' then t.tail else t
  if !digits.isEmpty && digits.all Char.isDigit then
    match Nat.ofDigitChars 10 digits 0 with
    | 0 => some none
    | n + 1 => Level.all[n]?.map some
  else if t.map Char.toUpper = "OFF".toList then some none
  else (Level.all.find? fun level => level.label = t.map Char.toUpper).map some

/-! ### Events -/

/-- One directive of a filter. -/
structure Directive where
  /-- How targets begin; empty for all of them. -/
  target : Text
  /-- A field that events must have. -/
  field? : Option Text
  /-- The least weighty level that is logged, if any is. -/
  bound : Option Level
  /-- Applies within spans only, and no event here is within one. -/
  inSpan : Bool
deriving DecidableEq

namespace Directive

/-- Whether an event has a field; the message is one. -/
def hasField (event : Event) (name : Text) : Bool :=
  name = "message".toList || event.fields.any fun field => field.1 = name

/-- Whether a directive applies to an event. -/
def applies (directive : Directive) (event : Event) : Bool :=
  !directive.inSpan && directive.target.isPrefixOf event.target &&
    directive.field?.all (hasField event)

/-- Whether a directive lets a level through. -/
def admits (directive : Directive) (level : Level) : Bool :=
  directive.bound.any fun bound => level.rank ≤ bound.rank

/-- Whether the field of one directive comes before that of another, no field first. -/
def fieldBefore : Option Text → Option Text → Bool
  | _, none => false
  | none, some _ => true
  | some a, some b => a < b

/-- Whether one directive is less specific than another: it has the shorter target, or else the
earlier field. -/
def lessSpecific (a b : Directive) : Bool :=
  a.target.length < b.target.length ||
    (a.target.length = b.target.length && fieldBefore a.field? b.field?)

/-! ### Parts -/

/-- Why a directive cannot be read. -/
inductive Fault where
  | malformed
  /-- A part begins or ends within a character. -/
  | torn
deriving DecidableEq

/-- What is there, or else a malformed directive. -/
def orMalformed {α : Type} : Option α → Except Fault α
  | some a => .ok a
  | none => .error .malformed

/-- A part of a directive, from one byte to another. The bytes are counted without the white space
before the directive, but taken from the text with it: only a directive without any has the parts
that it seems to have. -/
def part (t : Text) (first last : Nat) : Except Fault Text :=
  match Utf8.slice? first last t with
  | some part => .ok part
  | none => .error .torn

/-! ### Reading -/

/-- The level from a byte on. -/
def readBound (t : Text) (first : Nat) : Except Fault (Option Level) := do
  let level ← part t first (Utf8.size t)
  if level.isEmpty then return some .trace else orMalformed (Level.read? level)

/-- What follows the closing bracket, from a byte on: nothing, or a level. -/
def readTail (t : Text) (first : Nat) : Text → Except Fault (Option Level)
  | [] => .ok (some .trace)
  | '=' :: _ => readBound t (first + 1)
  | _ => .error .malformed

/-- Whether a field has a value, which stands between the first two equals signs, and the value is
neither a number nor a regular expression. -/
def hasBadValue (field : Text) : Bool :=
  match Text.splitOn '=' field with
  | _ :: value :: _ => (Numeral.read? value).isNone && !Pattern.isSupported value
  | _ => false

/-- What stands after an opening brace, from a byte on. A field with a value belongs to a span. -/
def readField (t target : Text) (inSpan : Bool) (first : Nat) (rest : Text) :
    Except Fault Directive := do
  let seeming := rest.takeWhile (· ≠ '}')
  let last := first + Utf8.size seeming
  match rest.dropWhile (· ≠ '}') with
  | '}' :: rest =>
    let field ← part t first last
    if field.isEmpty || hasBadValue field then throw .malformed
    match rest with
    | ']' :: rest =>
      return ⟨target, some field, ← readTail t (last + 2) rest, inSpan || field.contains '='⟩
    | _ => throw .malformed
  | _ => throw .malformed

/-- What stands after an opening bracket, from a byte on: the name of a span, or a field. -/
def readBracket (t target : Text) (first : Nat) (rest : Text) : Except Fault Directive := do
  let seeming := rest.takeWhile fun c => c ≠ ']' && c ≠ '{'
  let last := first + Utf8.size seeming
  match rest.dropWhile fun c => c ≠ ']' && c ≠ '{' with
  | ']' :: rest =>
    let _ ← part t first last
    return ⟨target, none, ← readTail t (last + 1) rest, true⟩
  | '{' :: rest =>
    let name ← part t first last
    readField t target (!name.isEmpty) (last + 1) rest
  | _ => throw .malformed

/-- Whether a directive may begin with a character. -/
def isStart (c : Char) : Bool := c = '-' || c = ':' || c = '_' || Text.isAlphanumeric c

/-- A directive without brackets and without an equals sign: a level, or else a target. -/
def ofWord (t : Text) : Directive :=
  match Level.read? t with
  | some bound => ⟨[], none, bound, false⟩
  | none => ⟨t, none, some .trace, false⟩

/-- The directive of a text. -/
def read (t : Text) : Except Fault Directive :=
  match Text.trim t with
  | [] => .error .malformed
  | '[' :: rest => readBracket t [] 1 rest
  | c :: rest =>
    if isStart c then do
      let seeming := (c :: rest).takeWhile fun c => c ≠ '=' && c ≠ '['
      let last := Utf8.size seeming
      match (c :: rest).dropWhile fun c => c ≠ '=' && c ≠ '[' with
      | '=' :: _ =>
        let target ← part t 0 last
        return ⟨target, none, ← readBound t (last + 1), false⟩
      | '[' :: rest => readBracket t (← part t 0 last) (last + 1) rest
      | _ => return ofWord t
    else .error .malformed

end Directive

end Log

end ThresholdCheck
