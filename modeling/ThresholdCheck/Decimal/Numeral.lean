import ThresholdCheck.Text.Split
import ThresholdCheck.Binary64.Rounding

/-!
# The text of a number

A numeral is an optional sign before `inf`, `infinity` or `nan` in any letter case, or before
digits with an optional point among or around them and an optional exponent. Reading keeps what the
text says exactly; rounding is a second step.

## Main definitions

* `Numeral` — what the text of a number says: a coefficient times a power of ten, or a special name
* `Numeral.read?` — the numeral of a text
* `Binary64.nearestDecimal` — a decimal rounded to the nearest number
* `Numeral.value`, `Binary64.read?` — the number that a numeral or a text stands for

## Main results

* `Binary64.nearestDecimal_ne_nan` — a decimal is never NaN
-/

namespace ThresholdCheck

/- Powers of natural numbers are the core library's, whatever else is loaded. -/
attribute [local instance (2000)] instPowNat

/-- What the text of a number says. -/
inductive Numeral where
  /-- Not a number. -/
  | nan
  /-- An infinity that is spelled out. -/
  | infinity (negative : Bool)
  /-- The exact value `coefficient * 10 ^ scale`, with a sign. -/
  | decimal (negative : Bool) (coefficient : Nat) (scale : Int)
deriving DecidableEq

namespace Numeral

/-- An optional sign and what follows it. -/
def readSign : Text → Bool × Text
  | '-' :: rest => (true, rest)
  | '+' :: rest => (false, rest)
  | t => (false, t)

/-- The digits at the start of a text and what follows them. -/
def readDigits (t : Text) : Text × Text := (t.takeWhile Char.isDigit, t.dropWhile Char.isDigit)

theorem readDigits_append (t : Text) : (readDigits t).1 ++ (readDigits t).2 = t :=
  List.takeWhile_append_dropWhile

theorem isDigit_of_mem_readDigits {t : Text} {c : Char} (h : c ∈ (readDigits t).1) :
    c.isDigit := by
  have := List.all_takeWhile (l := t) (p := Char.isDigit)
  rw [List.all_eq_true] at this
  exact this c h

/-- The value of an exponent part, which is empty or an `e` before a sign and digits. -/
def readExponent? : Text → Option Int
  | [] => some 0
  | c :: rest =>
    if c = 'e' ∨ c = 'E' then
      let (negative, digits) := readSign rest
      if digits.isEmpty || !digits.all Char.isDigit then none
      else some (Binary64.signed negative (Nat.ofDigitChars 10 digits 0))
    else none

/-- The fraction digits after a point, if there is one, and what follows them. -/
def readFraction : Text → Text × Text
  | '.' :: rest => readDigits rest
  | t => ([], t)

/-- The decimal written by a text without a sign: at least one digit, of the whole part or of the
fraction. -/
def readDecimal? (negative : Bool) (t : Text) : Option Numeral :=
  let (whole, rest) := readDigits t
  let (fraction, rest) := readFraction rest
  if whole.isEmpty && fraction.isEmpty then none
  else
    (readExponent? rest).map fun exponent =>
      decimal negative (Nat.ofDigitChars 10 (whole ++ fraction) 0) (exponent - fraction.length)

/-- The numeral of a text, if it is one. -/
def read? (t : Text) : Option Numeral :=
  let (negative, body) := readSign t
  let name := body.map Char.toLower
  if name = "inf".toList ∨ name = "infinity".toList then some (infinity negative)
  else if name = "nan".toList then some nan
  else readDecimal? negative body

end Numeral

namespace Binary64

/-- The number nearest to `coefficient * 10 ^ scale` with a sign. Decimals far beyond the largest
number or far below the smallest are told by their leading digit's place alone. -/
def nearestDecimal (negative : Bool) (coefficient : Nat) (scale : Int) : Binary64 :=
  if coefficient = 0 then zero negative
  else
    let places : Int := (Nat.toDigits 10 coefficient).length + scale
    if 310 < places then infinite negative
    else if places < -330 then zero negative
    else if 0 ≤ scale then nearest negative (unitsPerOne * (coefficient * 10 ^ scale.toNat)) 1
    else nearest negative (unitsPerOne * coefficient) (10 ^ (-scale).toNat)

theorem nearestDecimal_ne_nan (negative : Bool) (coefficient : Nat) (scale : Int) :
    nearestDecimal negative coefficient scale ≠ nan := by
  rw [nearestDecimal, zero]
  simp only
  split
  · simp
  · split
    · simp
    · split
      · simp
      · split <;> exact nearest_ne_nan _ _ _

end Binary64

namespace Numeral

/-- The number that a numeral stands for: decimals are rounded to the nearest. -/
def value : Numeral → Binary64
  | nan => .nan
  | infinity negative => .infinite negative
  | decimal negative coefficient scale => .nearestDecimal negative coefficient scale

end Numeral

/-- The number that a text stands for. -/
def Binary64.read? (t : Text) : Option Binary64 := (Numeral.read? t).map Numeral.value

end ThresholdCheck
