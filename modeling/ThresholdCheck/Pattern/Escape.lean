import ThresholdCheck.Pattern.Flags

/-!
# Single characters and escapes of a regular expression

## Main definitions

* `Pattern.Primitive` — what one character or one escape stands for
* `Pattern.readEscape?` — what follows a backslash
* `Pattern.Flags.admits`, `Pattern.Flags.admitsItem` — whether a primitive can be used, outside and
  inside of a set
-/

namespace ThresholdCheck

namespace Pattern

/-- What one character or one escape stands for. -/
inductive Primitive where
  /-- A character. -/
  | char (c : Char)
  /-- A character that is written as a byte of two digits. -/
  | byte (c : Char)
  /-- Any character. -/
  | dot
  /-- An end of the text or of a line. -/
  | anchor
  /-- A place where a word begins or ends, or none does. -/
  | boundary
  /-- All digits, white space or word characters, or all others. -/
  | shorthand (negated : Bool)
deriving DecidableEq

/-- The character of a primitive that stands for one. -/
def Primitive.char? : Primitive → Option Char
  | .char c => some c
  | .byte c => some c
  | _ => none

/-! ### Code points -/

/-- The value of a hexadecimal digit. -/
def digitValue (c : Char) : Nat :=
  if c.isDigit then c.toNat - '0'.toNat else c.toLower.toNat - 'a'.toNat + 10

/-- Whether a character is a hexadecimal digit. -/
def isHexDigit (c : Char) : Bool := c.isDigit || ('a' ≤ c.toLower && c.toLower ≤ 'f')

/-- The character of some hexadecimal digits, if its number is a code point. -/
def ofHexDigits? (digits : Text) : Option Char :=
  let n := digits.foldl (fun n c => n * 16 + digitValue c) 0
  if digits.all isHexDigit && (n < 0xd800 || (0xe000 ≤ n && n < 0x110000)) then some (Char.ofNat n)
  else none

/-- The hexadecimal digits after the letter of an escape: a fixed number of them, or any number in
braces. -/
def readHex? (flags : Flags) (count : Nat) (t : Text) : Option (Primitive × Text) :=
  match flags.skip t with
  | '{' :: rest =>
    match flags.span (· ≠ '}') (flags.skip rest) with
    | (digits, '}' :: rest) =>
      if digits.isEmpty then none
      else (ofHexDigits? digits).map fun c => (.char c, flags.skip rest)
    | _ => none
  | t => readFixed count [] t
where
  /-- A fixed number of digits, after those that were read. -/
  readFixed : Nat → Text → Text → Option (Primitive × Text)
    | 0, digits, t =>
      (ofHexDigits? digits).map fun c => (if count = 2 then .byte c else .char c, t)
    | _ + 1, _, [] => none
    | n + 1, digits, c :: rest => readFixed n (digits ++ [c]) (flags.skip rest)

/-! ### Escapes -/

/-- The control characters that have a letter. -/
def controlOf? (c : Char) : Option Char :=
  ([('a', '\x07'), ('f', '\x0c'), ('n', '\n'), ('r', '\r'), ('t', '\t'), ('v', '\x0b')] :
    List (Char × Char)).lookup c

/-- The kinds of word boundaries that have a name. -/
def boundaryNames : List Text :=
  ["start".toList, "end".toList, "start-half".toList, "end-half".toList]

/-- The name of a word boundary in braces, if there is one; other braces stay for a number of
repetitions. -/
def readBoundary? (flags : Flags) : Text → Option (Primitive × Text)
  | '{' :: rest =>
    match flags.span (fun c => c.isAlpha || c = '-') (flags.skip rest) with
    | (_, []) => none
    | ([], _) => some (.boundary, '{' :: rest)
    | (name, '}' :: rest) => if boundaryNames.contains name then some (.boundary, rest) else none
    | _ => none
  | t => some (.boundary, t)

/-- What follows a backslash. Digits would refer back to a group and properties of characters would
need tables; neither is supported. -/
def readEscape? (flags : Flags) : Text → Option (Primitive × Text)
  | [] => none
  | c :: rest =>
    if c = 'x' then readHex? flags 2 rest
    else if c = 'u' then readHex? flags 4 rest
    else if c = 'U' then readHex? flags 8 rest
    else if c = 'd' || c = 's' || c = 'w' then some (.shorthand false, rest)
    else if c = 'D' || c = 'S' || c = 'W' then some (.shorthand true, rest)
    else if c = 'A' || c = 'z' then some (.anchor, rest)
    else if c = 'b' then readBoundary? flags rest
    else if c = 'B' || c = '<' || c = '>' then some (.boundary, rest)
    else if c.toNat < 0x80 && !c.isAlphanum then some (.char c, rest)
    else (controlOf? c).map fun control => (.char control, rest)

/-! ### Use -/

namespace Flags

/-- Whether a primitive can be used outside of a set. Either case and shorthands for all scripts
would need tables; what may match a lone byte outside of ASCII is not text. -/
def admits (flags : Flags) : Primitive → Bool
  | .char _ => !(flags.wide && flags.caseless)
  | .byte c => if flags.wide then !flags.caseless else c.toNat < 0x80
  | .dot => flags.wide
  | .anchor => true
  | .boundary => true
  | .shorthand negated => !flags.wide && !negated

/-- Whether a primitive can be an item of a set. -/
def admitsItem (flags : Flags) : Primitive → Bool
  | .char c => if flags.wide then !flags.caseless else c.toNat < 0x80
  | .byte c => if flags.wide then !flags.caseless else c.toNat < 0x80
  | .shorthand negated => !flags.wide && !negated
  | _ => false

end Flags

end Pattern

end ThresholdCheck
