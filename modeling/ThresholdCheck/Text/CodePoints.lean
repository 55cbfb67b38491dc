import ThresholdCheck.Text.Split

/-!
# Tables of code points

A property of characters is a list of runs of code points, each given by its first and its last.

## Main definitions

* `Text.inRanges` — whether a character lies in one of the runs
* `Text.isBlank` — white space
* `Text.trim` — a text without the white space around it
-/

namespace ThresholdCheck

namespace Text

/-- Whether the code point of `c` lies in one of the runs. -/
def inRanges (ranges : List (Nat × Nat)) (c : Char) : Bool :=
  ranges.any fun (first, last) => first ≤ c.toNat && c.toNat ≤ last

/-! ### White space -/

/-- The runs of white space in the Unicode character database. -/
def blankRanges : List (Nat × Nat) :=
  [(0x9, 0xd), (0x20, 0x20), (0x85, 0x85), (0xa0, 0xa0), (0x1680, 0x1680), (0x2000, 0x200a),
    (0x2028, 0x2029), (0x202f, 0x202f), (0x205f, 0x205f), (0x3000, 0x3000)]

/-- Whether a character is white space. -/
def isBlank (c : Char) : Bool := inRanges blankRanges c

/-- A text without the white space at its start. -/
def trimStart (t : Text) : Text := t.dropWhile isBlank

/-- A text without the white space at its end. -/
def trimEnd (t : Text) : Text := (t.reverse.dropWhile isBlank).reverse

/-- A text without the white space at both ends. -/
def trim (t : Text) : Text := trimEnd (trimStart t)

end Text

end ThresholdCheck
