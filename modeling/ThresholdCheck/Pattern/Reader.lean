import ThresholdCheck.Pattern.CharSet
import ThresholdCheck.Text.Alphanumeric

/-!
# Regular expressions

An expression can be used if it is well formed and asks for no tables of characters. It is read from
left to right with the groups that are open; of what was read only the shape is kept.

## Main definitions

* `Pattern.Part` — a part of an expression
* `Pattern.Level` — a group up to the place that is read
* `Pattern.Reader` — the state of reading
* `Pattern.isSupported` — whether an expression can be used
-/

namespace ThresholdCheck

namespace Pattern

/-! ### Parts -/

/-- A part of an expression. -/
structure Part where
  /-- How deeply other parts are nested in it. -/
  depth : Nat
  /-- It asks for the word boundaries of all scripts. -/
  wideBoundary : Bool
  /-- It may be repeated; flags may not. -/
  repeatable : Bool

namespace Part

/-- A part without others in it. -/
def leaf : Part := ⟨0, false, true⟩

/-- A list of flags. -/
def flagList : Part := ⟨0, false, false⟩

/-- Parts side by side, one after the other or to choose from. -/
def join (parts : List Part) : Part :=
  ⟨depthOf (parts.map Part.depth), parts.any Part.wideBoundary, true⟩

/-- A part within others. -/
def within (part : Part) : Part := { part with depth := part.depth + 1, repeatable := true }

/-- A part that is repeated; one that may not occur at all asks for nothing. -/
def repeated (most : Option Nat) (part : Part) : Part :=
  { part.within with wideBoundary := part.wideBoundary && most ≠ some 0 }

end Part

/-! ### Groups -/

/-- A group up to the place that is read. -/
structure Level where
  flags : Flags
  /-- The alternatives that are complete. -/
  branches : List Part
  /-- The parts of the current one. -/
  parts : List Part

namespace Level

/-- The start of a group. -/
def start (flags : Flags) : Level := ⟨flags, [], []⟩

/-- With another part. -/
def add (level : Level) (part : Part) : Level := { level with parts := level.parts ++ [part] }

/-- At the end of an alternative. -/
def branch (level : Level) : Level :=
  { level with branches := level.branches ++ [.join level.parts], parts := [] }

/-- All that was read of a group. -/
def part (level : Level) : Part := .join level.branch.branches

/-- With the last part repeated, if there is one that may be. -/
def repeatLast? (level : Level) (most : Option Nat) : Option Level := do
  let last ← level.parts.getLast?
  guard last.repeatable
  return { level with parts := level.parts.dropLast ++ [last.repeated most] }

end Level

/-! ### Reading -/

/-- The state of reading. -/
structure Reader where
  level : Level
  /-- The groups outside of the innermost one. -/
  outer : List Level
  /-- The names of groups. -/
  names : List Text

namespace Reader

/-- With a change to the innermost group. -/
def onLevel (reader : Reader) (f : Level → Level) : Reader :=
  { reader with level := f reader.level }

/-- The start of a group with flags of its own. -/
def openGroup (reader : Reader) (flags : Flags) : Reader :=
  { reader with level := .start flags, outer := reader.level :: reader.outer }

/-- Whether a character may stand in the name of a group. -/
def isNamePart (c : Char) : Bool :=
  c = '_' || c = '.' || c = '[' || c = ']' || Text.isAlphanumeric c

/-- Whether a character may start the name of a group. -/
def isNameStart (c : Char) : Bool := c = '_' || Text.isAlphabetic c

/-- Whether a text is the name of a group. -/
def isName (name : Text) : Bool := name.head?.any isNameStart && name.all isNamePart

/-- The start of a group that has a name, which comes before an angle bracket. No two groups have
the same name. -/
def readNamed? (reader : Reader) (t : Text) : Option (Reader × Text) := do
  let (name, rest) ← Text.cutFirst '>' t
  guard (isName name && !reader.names.contains name)
  return ({ reader.openGroup reader.level.flags with names := name :: reader.names }, rest)

/-- Flags, alone or before a colon and a group. -/
def readFlags? (reader : Reader) (t : Text) : Option (Reader × Text) := do
  let list := t.takeWhile fun c => c ≠ ':' && c ≠ ')'
  let flags ← reader.level.flags.read? list
  match t.dropWhile fun c => c ≠ ':' && c ≠ ')' with
  | ':' :: rest => return (reader.openGroup flags, rest)
  | ')' :: rest =>
    if list.isEmpty then none
    else return (reader.onLevel fun level => { level.add .flagList with flags }, rest)
  | _ => none

/-- What follows an opening parenthesis: flags, or the start of a group. Looking ahead and behind
is not supported. -/
def readGroup? (reader : Reader) (t : Text) : Option (Reader × Text) :=
  match reader.level.flags.skip t with
  | '?' :: '=' :: _ => none
  | '?' :: '!' :: _ => none
  | '?' :: '<' :: '=' :: _ => none
  | '?' :: '<' :: '!' :: _ => none
  | '?' :: '<' :: rest => reader.readNamed? rest
  | '?' :: 'P' :: '<' :: rest => reader.readNamed? rest
  | '?' :: rest => reader.readFlags? rest
  | t => some (reader.openGroup reader.level.flags, t)

/-- The end of the innermost group. -/
def closeGroup? (reader : Reader) : Option Reader :=
  match reader.outer with
  | [] => none
  | next :: outer =>
    some { reader with level := next.add reader.level.part.within, outer }

/-- A number of repetitions, and what follows it. -/
def readCount? (flags : Flags) (t : Text) : Option (Nat × Text) :=
  let (digits, rest) := flags.span Char.isDigit (Text.trimStart t)
  let n := Nat.ofDigitChars 10 digits 0
  if digits.isEmpty || 0xffffffff < n then none
  else some (n, flags.skip (Text.trimStart rest))

/-- What follows an opening brace: how often at most the last part is repeated, and what follows the
closing brace. -/
def readBounds? (flags : Flags) (t : Text) : Option (Option Nat × Text) := do
  let (least, rest) ← readCount? flags (flags.skip t)
  match rest with
  | '}' :: rest => return (some least, flags.skip rest)
  | ',' :: rest =>
    match flags.skip rest with
    | '}' :: rest => return (none, flags.skip rest)
    | rest =>
      let (most, rest) ← readCount? flags rest
      match rest with
      | '}' :: rest => if least ≤ most then return (some most, flags.skip rest) else none
      | _ => none
  | _ => none

/-- What remains after a question mark, which turns a repetition around. -/
def dropLazy : Text → Text
  | '?' :: rest => rest
  | t => t

/-- A primitive at its place. -/
def addPrimitive? (reader : Reader) (primitive : Primitive) : Option Reader :=
  if reader.level.flags.admits primitive then
    let wideBoundary := primitive = .boundary && reader.level.flags.wide
    some (reader.onLevel fun level => level.add { Part.leaf with wideBoundary })
  else none

/-- One step. -/
def step? (reader : Reader) (c : Char) (rest : Text) : Option (Reader × Text) :=
  let flags := reader.level.flags
  if c = '(' then reader.readGroup? rest
  else if c = ')' then reader.closeGroup?.map fun reader => (reader, rest)
  else if c = '|' then some (reader.onLevel Level.branch, rest)
  else if c = '[' then
    (readSet? flags rest).map fun (depth, rest) =>
      (reader.onLevel fun level => level.add { Part.leaf with depth }, rest)
  else if c = '?' || c = '*' || c = '+' then do
    let most := if c = '?' then some 1 else none
    let level ← reader.level.repeatLast? most
    return ({ reader with level }, dropLazy rest)
  else if c = '{' then do
    let (most, rest) ← readBounds? flags rest
    let level ← reader.level.repeatLast? most
    return ({ reader with level }, dropLazy rest)
  else if c = '\\' then do
    let (primitive, rest) ← readEscape? flags rest
    return (← reader.addPrimitive? primitive, rest)
  else
    let primitive :=
      if c = '.' then .dot else if c = '^' || c = '$' then .anchor else .char c
    (reader.addPrimitive? primitive).map fun reader => (reader, rest)

/-- The state at the end of a text. Every step takes a character. -/
def run? (reader : Reader) (t : Text) : Option Reader :=
  match reader.level.flags.skip t with
  | [] => some reader
  | c :: rest =>
    match reader.step? c rest with
    | none => none
    | some (reader, after) => if after.length < t.length then reader.run? after else none
termination_by t.length

end Reader

/-! ### Whole expressions -/

/-- The part that is a whole expression, if all groups are closed. -/
def read? (t : Text) : Option Part := do
  let reader ← Reader.run? ⟨.start .initial, [], []⟩ t
  if reader.outer.isEmpty then return reader.level.part else none

/-- How deeply the parts of an expression may be nested. -/
def depthLimit : Nat := 250

/-- Whether an expression can be used. -/
def isSupported (t : Text) : Bool :=
  (read? t).any fun part => part.depth ≤ depthLimit && !part.wideBoundary

end Pattern

end ThresholdCheck
