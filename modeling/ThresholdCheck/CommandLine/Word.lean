import ThresholdCheck.Text.Utf8

/-!
# Words of a command line

A word is an argument, or the value of a variable of the environment: a string of bytes that need
not be UTF-8. It is held as the text it starts with and the bytes from the first malformed sequence
on.

## Main definitions

* `Word` — a word
* `Word.ofBytes`, `Word.ofText` — the word of bytes or of a text
* `Word.text?` — the text of a word that is UTF-8
* `Word.shown` — a word as messages show it
* `Word.isNumeric` — whether a word looks like a number without a sign
* `Word.fileName?` — the last name of a path

## Main results

* `Word.text?_ofText` — the word of a text gives the text back
-/

namespace ThresholdCheck

/-- A word of the command line or of the environment. -/
structure Word where
  text : Text
  /-- The bytes from the first malformed sequence on. -/
  tail : List UInt8
deriving DecidableEq

namespace Word

/-- The word of some bytes. -/
def ofBytes (bytes : List UInt8) : Word :=
  let (text, tail) := Utf8.decode bytes
  ⟨text, tail⟩

/-- The word of a text. -/
def ofText (t : Text) : Word := ⟨t, []⟩

instance : Coe Text Word := ⟨ofText⟩

/-- A word without a byte. -/
def isEmpty (word : Word) : Bool := word.text.isEmpty && word.tail.isEmpty

/-- The text of a word, if it is well formed. -/
def text? (word : Word) : Option Text := if word.tail.isEmpty then some word.text else none

/-- A word as messages show it, with U+FFFD in place of malformed sequences. -/
def shown (word : Word) : Text := word.text ++ Utf8.decodeLossy word.tail

theorem text?_ofText (t : Text) : (ofText t).text? = some t := rfl

/-! ### Numbers -/

/-- What may follow the digits and the fraction of a number: nothing, or an exponent. -/
def isExponent : Text → Bool
  | [] => true
  | c :: rest => (c = 'e' || c = 'E') && !rest.isEmpty && rest.all Char.isDigit

/-- What stands after a point and the digits that follow it, if there is a point. -/
def dropFraction : Text → Text
  | '.' :: rest => rest.dropWhile Char.isDigit
  | t => t

/-- Digits, then a point with more digits or none, then an exponent of at least one digit; only the
first part has to be there. -/
def isNumericText (t : Text) : Bool :=
  t.head?.any Char.isDigit && isExponent (dropFraction (t.dropWhile Char.isDigit))

/-- Whether a word looks like a number without a sign. -/
def isNumeric (word : Word) : Bool := word.text?.any isNumericText

/-! ### Paths -/

/-- The bytes between slashes. -/
def cutSlashes : List UInt8 → List (List UInt8)
  | [] => [[]]
  | b :: bytes =>
    if b = 0x2f then [] :: cutSlashes bytes
    else
      match cutSlashes bytes with
      | [] => [[b]]
      | piece :: pieces => (b :: piece) :: pieces

/-- The words between slashes. -/
def pathPieces (word : Word) : List Word :=
  let names := Text.splitOn '/' word.text
  match cutSlashes word.tail with
  | [] => names.map ofText
  | tail :: others =>
    names.dropLast.map ofText ++ ⟨names.getLast?.getD [], tail⟩ :: others.map ofBytes

/-- The last name of a path, if it is text. Empty names and `.` do not count; a path that ends in
`..` has no last name. -/
def fileName? (word : Word) : Option Text :=
  let names := word.pathPieces.filter fun piece => !piece.isEmpty && piece ≠ ofText ['.']
  match names.getLast? with
  | some name => if name = ofText ['.', '.'] then none else name.text?
  | none => none

end Word

end ThresholdCheck
