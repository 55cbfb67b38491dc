import ThresholdCheck.Text.Alphabetic
import ThresholdCheck.Text.Numeric

/-!
# Letters and numbers

Names are made of characters that are alphabetic or numeric. The two classes overlap in the letter
numbers.

## Main definitions

* `Text.isAlphanumeric` — whether a character is a letter or a number
-/

namespace ThresholdCheck

namespace Text

/-- Whether a character is a letter or a number. -/
def isAlphanumeric (c : Char) : Bool := isAlphabetic c || isNumeric c

end Text

end ThresholdCheck
