import ThresholdCheck.Text.Split
import ThresholdCheck.Binary64.Rounding

/-!
# Numbers with a fixed count of fraction digits

The exact value is rounded to the last place, a tie going to the even digit.

## Main definitions

* `Decimal.natural`, `Decimal.integer` — whole numbers
* `Decimal.fixed` — a number of last places, with its point
* `Binary64.fixedText` — six fraction digits; infinities and NaN by name
* `Binary64.valueText` — as a measured value: whole numbers of 64 bits without a fraction

## Main results

* `Decimal.isDigit_of_mem_natural`, `Decimal.natural_ne_nil` — digits only, and at least one
-/

namespace ThresholdCheck

/- Powers of natural numbers are the core library's, whatever else is loaded. -/
attribute [local instance (2000)] instPowNat

namespace Decimal

/-- The digits of a natural number. -/
def natural (n : Nat) : Text := Nat.toDigits 10 n

/-- An integer, with a sign if it is negative. -/
def integer (n : Int) : Text := if n < 0 then '-' :: natural n.natAbs else natural n.natAbs

/-- Exactly `width` digits of `n`, zeros in front. -/
def padded (width n : Nat) : Text :=
  let digits := natural n
  List.replicate (width - digits.length) '0' ++ digits

/-- The decimal `n / 10 ^ places`, written with `places` digits after the point. -/
def fixed (places n : Nat) : Text :=
  natural (n / 10 ^ places) ++ '.' :: padded places (n % 10 ^ places)

theorem isDigit_of_mem_natural {n : Nat} {c : Char} (h : c ∈ natural n) : c.isDigit :=
  Nat.isDigit_of_mem_toDigits (by decide) (by decide) h

theorem natural_ne_nil (n : Nat) : natural n ≠ [] := by
  simp [natural]

end Decimal

/-- Fraction digits of a number in messages and records. -/
def fractionDigits : Nat := 6

namespace Binary64

/-- The sign of a finite number, zero included. -/
def signText (negative : Bool) : Text := if negative then ['-'] else []

/-- A number with six fraction digits. -/
def fixedText : Binary64 → Text
  | nan => "NaN".toList
  | infinite negative => if negative then "-Inf".toList else "+Inf".toList
  | finite negative m =>
    signText negative ++
      Decimal.fixed fractionDigits
        (roundHalfEven (10 ^ fractionDigits * m.units) unitsPerOne)

/-- One more than the greatest whole number of 64 bits in two's complement, `2 ^ 63`. -/
def wholeLimit : Int := 9223372036854775808

/-- The integer that a number is, if it is a whole number of 64 bits in two's complement. -/
def whole? : Binary64 → Option Int
  | finite negative m =>
    let n := signed negative m.whole
    if m.isWhole ∧ -wholeLimit ≤ n ∧ n < wholeLimit then some n else none
  | _ => none

/-- A measured value: a whole number of 64 bits without a fraction, any other number with six
fraction digits. -/
def valueText (x : Binary64) : Text :=
  match x.whole? with
  | some n => Decimal.integer n
  | none => x.fixedText

end Binary64

end ThresholdCheck
