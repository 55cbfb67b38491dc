import ThresholdCheck.Decimal.Fixed

/-!
# The shortest decimal that reads back

A finite number is the nearest one to every real in an interval around it. The shortest decimal is
the one with the fewest digits in that interval and, of those, the nearest to the number. Counting
from one digit upwards, only the two neighbours of the number on each decimal grid need a look.

## Main definitions

* `Magnitude.readsBack` — whether a decimal lies in the interval around a magnitude
* `Magnitude.shortest` — the digits of the shortest decimal, and the place of its point
* `DecimalLayout` — where positional notation ends and how an exponent is written
* `Binary64.shortestText` — a number in a given layout
-/

namespace ThresholdCheck

/- Powers of natural numbers are the core library's, whatever else is loaded. -/
attribute [local instance (2000)] instPowNat

/-- Which of two equally near decimals is taken. -/
inductive DecimalTie where
  | toEven
  | up
deriving DecidableEq

namespace Magnitude

/-- The distance to the next larger magnitude. -/
def step (m : Magnitude) : Nat := 2 ^ (m.units.log2 - 52)

/-- Whether the next smaller magnitude is only half a step away: at a power of two that is not
the smallest with its step. -/
def isBinade (m : Magnitude) : Bool := 52 < m.units.log2 && m.units = 2 ^ m.units.log2

/-- Lower end of the interval of reals that round to the magnitude, in quarters of a unit. -/
def lowerQuarters (m : Magnitude) : Nat :=
  4 * m.units - (if m.isBinade then m.step else 2 * m.step)

/-- Upper end of the interval, in quarters of a unit. -/
def upperQuarters (m : Magnitude) : Nat := 4 * m.units + 2 * m.step

/-- Whether the ends belong to the interval: ties go to the even significand. -/
def hasEvenSignificand (m : Magnitude) : Bool := m.units / m.step % 2 = 0

/-- Numerator and denominator of a power of ten. -/
def powerOfTen (scale : Int) : Nat × Nat := (10 ^ scale.toNat, 10 ^ (-scale).toNat)

/-- Whether `coefficient * 10 ^ scale` rounds to the magnitude. -/
def readsBack (m : Magnitude) (coefficient : Nat) (scale : Int) : Bool :=
  let (num, den) := powerOfTen scale
  let quarters := unitsPerOne * (4 * coefficient * num)
  if m.hasEvenSignificand then
    m.lowerQuarters * den ≤ quarters && quarters ≤ m.upperQuarters * den
  else
    m.lowerQuarters * den < quarters && quarters < m.upperQuarters * den

/-- Of `coefficient` and its successor, the one nearer to the magnitude in units of
`10 ^ scale`. -/
def nearer (tie : DecimalTie) (m : Magnitude) (coefficient : Nat) (scale : Int) : Nat :=
  let (num, den) := powerOfTen scale
  let double := 2 * m.units * den
  let middle := unitsPerOne * ((2 * coefficient + 1) * num)
  if double < middle then coefficient
  else if middle < double then coefficient + 1
  else
    match tie with
    | .toEven => coefficient + coefficient % 2
    | .up => coefficient + 1

/-- The multiple of `10 ^ scale` that reads back and is nearest to the magnitude, if any does. -/
def onGrid? (tie : DecimalTie) (m : Magnitude) (scale : Int) : Option Nat :=
  let (num, den) := powerOfTen scale
  let below := m.units * den / (unitsPerOne * num)
  match m.readsBack below scale, m.readsBack (below + 1) scale with
  | true, true => some (nearer tie m below scale)
  | true, false => some below
  | false, true => some (below + 1)
  | false, false => none

/-- How many digits the whole part has; zero or less counts the zeros after the point. -/
def pointPlace (m : Magnitude) : Int :=
  (Decimal.natural (10 ^ (400 : Nat) * m.units / unitsPerOne)).length - 400

/-- The first grid with a decimal that reads back, trying the digit counts in order. -/
def firstOnGrid (tie : DecimalTie) (m : Magnitude) (point : Int) : List Nat → Nat × Int
  | [] => (0, 0)
  | count :: counts =>
    match onGrid? tie m (point - count) with
    | some coefficient => (coefficient, point - count)
    | none => firstOnGrid tie m point counts

/-- Digits of the shortest decimal without zeros at the end, and the place of the point: the
value is `0.digits` times ten to that place. Seventeen digits always read back. -/
def shortest (tie : DecimalTie) (m : Magnitude) : Text × Int :=
  if m.units = 0 then (['0'], 1)
  else
    let (coefficient, scale) := firstOnGrid tie m m.pointPlace (List.range' 1 17)
    let digits := Decimal.natural coefficient
    ((digits.reverse.dropWhile (· = '0')).reverse, digits.length + scale)

end Magnitude

/-- How a shortest decimal is laid out. -/
structure DecimalLayout where
  /-- Positional notation from this place of the point on. -/
  leastPoint : Int
  /-- Positional notation up to this place of the point. -/
  greatestPoint : Int
  /-- Whether an exponent that is not negative has a sign. -/
  exponentPlus : Bool
  tie : DecimalTie

namespace Decimal

/-- Digits with the point at its place, and at least one digit on each side of it. -/
def positional (digits : Text) (point : Int) : Text :=
  if point ≤ 0 then "0.".toList ++ List.replicate (-point).toNat '0' ++ digits
  else if digits.length ≤ point then
    digits ++ List.replicate (point.toNat - digits.length) '0' ++ ".0".toList
  else digits.take point.toNat ++ '.' :: digits.drop point.toNat

/-- Digits with the point after the first, and an exponent. -/
def scientific (plus : Bool) (digits : Text) (point : Int) : Text :=
  let exponent := point - 1
  let sign := if exponent < 0 then ['-'] else if plus then ['+'] else []
  let fraction := if digits.length ≤ 1 then [] else '.' :: digits.drop 1
  digits.take 1 ++ fraction ++ 'e' :: (sign ++ natural exponent.natAbs)

end Decimal

/-- A magnitude in a layout. -/
def Magnitude.shortestText (layout : DecimalLayout) (m : Magnitude) : Text :=
  let (digits, point) := m.shortest layout.tie
  if layout.leastPoint ≤ point ∧ point ≤ layout.greatestPoint then
    Decimal.positional digits point
  else Decimal.scientific layout.exponentPlus digits point

/-- A finite number in a layout; other numbers by name. -/
def Binary64.shortestText (layout : DecimalLayout) : Binary64 → Text
  | nan => "NaN".toList
  | infinite negative => signText negative ++ "inf".toList
  | finite negative m => signText negative ++ m.shortestText layout

end ThresholdCheck
