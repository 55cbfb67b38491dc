import ThresholdCheck.Pattern.Escape

/-!
# Sets of characters in a regular expression

A set in brackets has characters, ranges, named classes and other sets as its items; operators of
two equal characters stand between groups of items. Of a set only its depth is kept: how deeply
brackets, operators and groups of items are nested in it.

## Main definitions

* `Pattern.SetLevel` — a set up to the place that is read
* `Pattern.readSet?` — the depth of the set after an opening bracket
-/

namespace ThresholdCheck

namespace Pattern

/-- The depth of parts that stand side by side: one part alone adds nothing. -/
def depthOf : List Nat → Nat
  | [] => 0
  | [depth] => depth
  | depths => depths.foldl max 0 + 1

/-- A set up to the place that is read. -/
structure SetLevel where
  /-- The depth of what stands before the last operator. -/
  left? : Option Nat
  /-- The depths of the items since then. -/
  items : List Nat

namespace SetLevel

/-- With another item. -/
def add (level : SetLevel) (depth : Nat) : SetLevel :=
  { level with items := level.items ++ [depth] }

/-- The depth of all that was read. -/
def depth (level : SetLevel) : Nat :=
  match level.left? with
  | none => depthOf level.items
  | some left => max left (depthOf level.items) + 1

/-- At an operator: its left operand is all that was read. -/
def operate (level : SetLevel) : SetLevel := ⟨some level.depth, []⟩

end SetLevel

/-! ### Items -/

/-- The names of classes. -/
def classNames : List Text :=
  ["alnum", "alpha", "ascii", "blank", "cntrl", "digit", "graph", "lower", "print", "punct",
    "space", "upper", "word", "xdigit"].map String.toList

/-- After an opening bracket, a class by its name between colons: whether it is negated, and what
follows it. -/
def readClass? : Text → Option (Bool × Text)
  | ':' :: t =>
    let negated := t.head? = some '^'
    let t := if negated then t.tail else t
    match t.dropWhile (· ≠ ':') with
    | ':' :: ']' :: rest =>
      if classNames.contains (t.takeWhile (· ≠ ':')) then some (negated, rest) else none
    | _ => none
  | _ => none

/-- Whether a class can be used: all scripts in either case would need tables, and the bytes outside
of ASCII are not text. -/
def Flags.admitsClass (flags : Flags) (negated : Bool) : Bool :=
  if flags.wide then !flags.caseless else !negated

/-- A character or an escape. -/
def readItem? (flags : Flags) : Text → Option (Primitive × Text)
  | [] => none
  | '\\' :: rest => readEscape? flags rest
  | c :: rest => some (.char c, rest)

/-- The character after a hyphen. Of a comment that begins there only its sign and the white space
after it are passed over. -/
def peek (flags : Flags) (t : Text) : Option Char :=
  if flags.spaced then
    match Text.trimStart t with
    | '#' :: rest => (Text.trimStart rest).head?
    | t => t.head?
  else t.head?

/-- A single item or a range, and what follows it. A hyphen before a closing bracket or before
another hyphen makes no range. -/
def readRange? (flags : Flags) (t : Text) : Option Text := do
  let (first, t) ← readItem? flags t
  guard (flags.admitsItem first)
  match flags.skip t with
  | [] => none
  | '-' :: rest =>
    if peek flags rest = some ']' || peek flags rest = some '-' then some ('-' :: rest)
    else
      let (last, t) ← readItem? flags (flags.skip rest)
      guard (flags.admitsItem last)
      guard ((← first.char?) ≤ (← last.char?))
      return t
  | t => some t

/-! ### Sets -/

/-- The start of a set: hyphens there, or else one closing bracket, stand for themselves. A negated
set of bytes would hold bytes outside of ASCII. -/
def openSet? (flags : Flags) (t : Text) : Option (SetLevel × Text) :=
  let t := flags.skip t
  let negated := t.head? = some '^'
  let t := if negated then flags.skip t.tail else t
  let (literal, t) :=
    match flags.span (· = '-') t with
    | ([], ']' :: rest) => ([']'], flags.skip rest)
    | (hyphens, rest) => (hyphens, rest)
  if (negated && !flags.wide) || !(literal.all fun c => flags.admitsItem (.char c)) then none
  else some (⟨none, literal.map fun _ => 0⟩, t)

/-- Whether two of a character are an operator on sets. -/
def isSetOperator (c : Char) : Bool := c = '&' || c = '-' || c = '~'

/-- One step within brackets, given the sets outside of the innermost one: the sets after it, none
at the end of the outermost one, with the depth of the set that ended there; and what follows. -/
def stepSet? (flags : Flags) (level : SetLevel) (outer : List SetLevel) (c : Char) (rest : Text) :
    Option ((Nat ⊕ SetLevel × List SetLevel) × Text) :=
  if c = '[' then
    match readClass? rest with
    | some (negated, rest) =>
      if flags.admitsClass negated then some (.inr (level.add 0, outer), rest) else none
    | none => (openSet? flags rest).map fun (inner, rest) => (.inr (inner, level :: outer), rest)
  else if c = ']' then
    match outer with
    | [] => some (.inl (level.depth + 1), rest)
    | next :: outer => some (.inr (next.add (level.depth + 1), outer), rest)
  else if isSetOperator c && rest.head? = some c then some (.inr (level.operate, outer), rest.tail)
  else (readRange? flags (c :: rest)).map fun rest => (.inr (level.add 0, outer), rest)

/-- The depth of the outermost set that is open, and what follows it. Every step takes a
character. -/
def readSetFrom? (flags : Flags) (level : SetLevel) (outer : List SetLevel) (t : Text) :
    Option (Nat × Text) :=
  match flags.skip t with
  | [] => none
  | c :: rest =>
    match stepSet? flags level outer c rest with
    | none => none
    | some (.inl depth, after) => some (depth, after)
    | some (.inr (level, outer), after) =>
      if after.length < t.length then readSetFrom? flags level outer after else none
termination_by t.length

/-- The depth of the set after an opening bracket, and what follows it. -/
def readSet? (flags : Flags) (t : Text) : Option (Nat × Text) := do
  let (level, t) ← openSet? flags t
  readSetFrom? flags level [] t

end Pattern

end ThresholdCheck
