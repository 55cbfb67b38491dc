import ThresholdCheck.Json.Token

/-!
# Numbers of a JSON text

Digits are gathered into a significand of 64 bits; digits beyond it only move the exponent. Whole
numbers of 64 bits are kept, all others become the significand times or over a power of ten, each
step rounded. The result is near the decimal that is written, but it need not be the nearest number.

## Main definitions

* `Json.Numeric` — a number as it is read
* `Json.gatherDigits` — digits as long as they fit below a limit
* `Json.scaled?` — a significand with an exponent
* `Json.readNumber` — a number after its sign

## Main results

* `length_le_of_readNumber`, `length_lt_of_skipNumber` — what is left is no longer than the text
-/

namespace ThresholdCheck

/- Powers of natural numbers are the core library's, whatever else is loaded. -/
attribute [local instance (2000)] instPowNat

namespace Json

/-- A number as it is read: whole numbers that fit are told from others. -/
inductive Numeric where
  | integer (value : Int)
  | float (value : Binary64)
deriving DecidableEq

/-- What is reported if a number is not wanted. -/
def Numeric.found : Numeric → Found
  | integer value => .integer value
  | float value => .float value

/-- The number nearest to what was read. -/
def Numeric.value : Numeric → Binary64
  | integer value => .ofNat (value < 0) value.natAbs
  | float value => value

/-! ### Digits -/

/-- The value of a digit. -/
def digitValue (c : Char) : Nat := c.toNat - '0'.toNat

/-- Digits that were gathered: their value, their count, and the text from the first character that
was not taken. -/
structure Gathered where
  value : Nat
  count : Nat
  rest : Text

/-- Digits gathered onto `value` as long as it stays below the limit. -/
def gatherDigits (limit value count : Nat) : Text → Gathered
  | [] => ⟨value, count, []⟩
  | c :: rest =>
    if c.isDigit ∧ value * 10 + digitValue c < limit then
      gatherDigits limit (value * 10 + digitValue c) (count + 1) rest
    else ⟨value, count, c :: rest⟩

/-- The text after digits. -/
def dropDigits (s : Text) : Text := s.dropWhile Char.isDigit

/-- Whether a digit comes next. -/
def startsWithDigit (s : Text) : Bool := s.head?.any Char.isDigit

/-- Significands stay below this. -/
def significandLimit : Nat := 2 ^ (64 : Nat)

/-- Written exponents stay below this. -/
def exponentLimit : Nat := 2 ^ (31 : Nat)

/-! ### Scaling -/

/-- The power of ten nearest to the exact one; exponents run up to 308. -/
def tenPower? (exponent : Nat) : Option Magnitude :=
  Magnitude.nearest? (unitsPerOne * 10 ^ exponent) 1

/-- A magnitude over a power of ten, taken in steps of at most 308. -/
def lowered (m : Magnitude) (exponent : Nat) : Magnitude :=
  if exponent ≤ 308 then
    ((tenPower? exponent).bind m.over?).getD .zero
  else if m.units = 0 then m
  else lowered (((tenPower? 308).bind m.over?).getD .zero) (exponent - 308)
termination_by exponent

/-- A magnitude times a power of ten, unless that is too large. -/
def raised? (m : Magnitude) (exponent : Nat) : Option Magnitude :=
  if exponent ≤ 308 then (tenPower? exponent).bind m.times?
  else if m.units = 0 then some m
  else none

/-- A significand with an exponent, unless that is too large. -/
def scaled? (significand : Nat) (exponent : Int) : Option Magnitude := do
  let m ← Magnitude.nearest? (unitsPerOne * significand) 1
  if 0 ≤ exponent then raised? m exponent.toNat else some (lowered m (-exponent).toNat)

/-- A significand with a sign and an exponent; the text that is left tells the place of a number
that is too large. -/
def readScaled (negative : Bool) (significand : Nat) (exponent : Int) (rest : Text) :
    Except Fault (Numeric × Text) :=
  match scaled? significand exponent with
  | some m => .ok (.float (.finite negative m), rest)
  | none => .error (.here .numberOutOfRange rest)

/-! ### The parts of a number -/

/-- The digits of an exponent part. One that does not fit is beyond the numbers, unless the
significand is zero or the exponent lowers it. -/
def readExponentDigits (negative : Bool) (significand : Nat) (exponent : Int) (lowering : Bool) :
    Text → Except Fault (Numeric × Text)
  | [] => .error (.here .eofInValue [])
  | c :: rest =>
    if c.isDigit then
      let digits := gatherDigits exponentLimit (digitValue c) 1 rest
      if startsWithDigit digits.rest then
        if significand = 0 ∨ lowering then
          .ok (.float (.zero negative), dropDigits digits.rest)
        else .error (.here .numberOutOfRange (digits.rest.drop 1))
      else
        readScaled negative significand
          (if lowering then exponent - digits.value else exponent + digits.value) digits.rest
    else .error (.next .invalidNumber (c :: rest))

/-- The exponent part, after its `e`. -/
def readExponent (negative : Bool) (significand : Nat) (exponent : Int) :
    Text → Except Fault (Numeric × Text)
  | '+' :: rest => readExponentDigits negative significand exponent false rest
  | '-' :: rest => readExponentDigits negative significand exponent true rest
  | s => readExponentDigits negative significand exponent false s

/-- What may follow the digits of a number that is not whole: an exponent, or its end. -/
def readAfterDigits (negative : Bool) (significand : Nat) (exponent : Int) (s : Text) :
    Except Fault (Numeric × Text) :=
  match s with
  | 'e' :: rest => readExponent negative significand exponent rest
  | 'E' :: rest => readExponent negative significand exponent rest
  | s => readScaled negative significand exponent s

/-- The fraction, after its point: at least one digit. -/
def readFraction (negative : Bool) (significand : Nat) (exponent : Int) (s : Text) :
    Except Fault (Numeric × Text) :=
  let digits := gatherDigits significandLimit significand 0 s
  if digits.count = 0 ∧ !startsWithDigit s then
    .error (.next (if s.isEmpty then .eofInValue else .invalidNumber) s)
  else readAfterDigits negative digits.value (exponent - digits.count) (dropDigits digits.rest)

/-- What follows the significand of the whole part. -/
def readAfterWhole (negative : Bool) (significand : Nat) (s : Text) :
    Except Fault (Numeric × Text) :=
  match s with
  | '.' :: rest => readFraction negative significand 0 rest
  | 'e' :: rest => readExponent negative significand 0 rest
  | 'E' :: rest => readExponent negative significand 0 rest
  | rest =>
    if negative then
      if significand = 0 ∨ 2 ^ (63 : Nat) < significand then
        .ok (.float (.ofNat true significand), rest)
      else .ok (.integer (-significand), rest)
    else .ok (.integer significand, rest)

/-- A whole part with more digits than the significand takes: `dropped` of them move the
exponent. -/
def readAfterLongWhole (negative : Bool) (significand dropped : Nat) (s : Text) :
    Except Fault (Numeric × Text) :=
  match s with
  | '.' :: rest => readFraction negative significand dropped rest
  | s => readAfterDigits negative significand dropped s

/-- A number, after its sign. A zero in front of other digits is refused. -/
def readNumber (negative : Bool) (s : Text) : Except Fault (Numeric × Text) :=
  match s with
  | [] => .error (.here .eofInValue [])
  | c :: rest =>
    if c = '0' then
      if startsWithDigit rest then .error (.next .invalidNumber rest)
      else readAfterWhole negative 0 rest
    else if c.isDigit then
      let digits := gatherDigits significandLimit (digitValue c) 1 rest
      if startsWithDigit digits.rest then
        readAfterLongWhole negative digits.value (digits.rest.takeWhile Char.isDigit).length
          (dropDigits digits.rest)
      else readAfterWhole negative digits.value digits.rest
    else .error (.next .invalidNumber (c :: rest))

/-! ### Lengths -/

theorem length_dropDigits_le (s : Text) : (dropDigits s).length ≤ s.length :=
  (List.dropWhile_suffix _).sublist.length_le

theorem length_gatherDigits_le (limit value count : Nat) (s : Text) :
    (gatherDigits limit value count s).rest.length ≤ s.length := by
  induction s generalizing value count with
  | nil => exact Nat.le_refl _
  | cons c rest ih =>
    rw [gatherDigits]
    split
    · exact Nat.le_trans (ih _ _) (Nat.le_succ _)
    · exact Nat.le_refl _

theorem rest_of_readScaled {negative : Bool} {significand : Nat} {exponent : Int} {s rest : Text}
    {n : Numeric} (h : readScaled negative significand exponent s = .ok (n, rest)) : rest = s := by
  rw [readScaled] at h
  split at h
  · simp only [Except.ok.injEq, Prod.mk.injEq] at h
    exact h.2.symm
  · simp at h

theorem length_le_of_readExponentDigits {negative lowering : Bool} {significand : Nat}
    {exponent : Int} {s rest : Text} {n : Numeric}
    (h : readExponentDigits negative significand exponent lowering s = .ok (n, rest)) :
    rest.length ≤ s.length := by
  cases s with
  | nil => cases h
  | cons c r =>
    have hg := length_gatherDigits_le exponentLimit (digitValue c) 1 r
    rw [readExponentDigits] at h
    simp only at h
    simp only [List.length_cons]
    split at h
    · split at h
      · split at h
        · simp only [Except.ok.injEq, Prod.mk.injEq] at h
          have := length_dropDigits_le (gatherDigits exponentLimit (digitValue c) 1 r).rest
          rw [← h.2]
          omega
        · simp at h
      · rw [rest_of_readScaled h]
        omega
    · cases h

theorem length_le_of_readExponent {negative : Bool} {significand : Nat} {exponent : Int}
    {s rest : Text} {n : Numeric}
    (h : readExponent negative significand exponent s = .ok (n, rest)) :
    rest.length ≤ s.length := by
  unfold readExponent at h
  split at h
  · exact Nat.le_trans (length_le_of_readExponentDigits h) (Nat.le_succ _)
  · exact Nat.le_trans (length_le_of_readExponentDigits h) (Nat.le_succ _)
  · exact length_le_of_readExponentDigits h

theorem length_le_of_readAfterDigits {negative : Bool} {significand : Nat} {exponent : Int}
    {s rest : Text} {n : Numeric}
    (h : readAfterDigits negative significand exponent s = .ok (n, rest)) :
    rest.length ≤ s.length := by
  unfold readAfterDigits at h
  split at h
  · exact Nat.le_trans (length_le_of_readExponent h) (Nat.le_succ _)
  · exact Nat.le_trans (length_le_of_readExponent h) (Nat.le_succ _)
  · exact Nat.le_of_eq (congrArg List.length (rest_of_readScaled h))

theorem length_le_of_readFraction {negative : Bool} {significand : Nat} {exponent : Int}
    {s rest : Text} {n : Numeric}
    (h : readFraction negative significand exponent s = .ok (n, rest)) :
    rest.length ≤ s.length := by
  have hg := length_gatherDigits_le significandLimit significand 0 s
  unfold readFraction at h
  simp only at h
  split at h
  · cases h
  · have h1 := length_le_of_readAfterDigits h
    have h2 := length_dropDigits_le (gatherDigits significandLimit significand 0 s).rest
    omega

theorem length_le_of_readAfterWhole {negative : Bool} {significand : Nat} {s rest : Text}
    {n : Numeric} (h : readAfterWhole negative significand s = .ok (n, rest)) :
    rest.length ≤ s.length := by
  unfold readAfterWhole at h
  split at h
  · exact Nat.le_trans (length_le_of_readFraction h) (Nat.le_succ _)
  · exact Nat.le_trans (length_le_of_readExponent h) (Nat.le_succ _)
  · exact Nat.le_trans (length_le_of_readExponent h) (Nat.le_succ _)
  · split at h
    · split at h
      · cases h
        exact Nat.le_refl _
      · cases h
        exact Nat.le_refl _
    · cases h
      exact Nat.le_refl _

theorem length_le_of_readAfterLongWhole {negative : Bool} {significand dropped : Nat}
    {s rest : Text} {n : Numeric}
    (h : readAfterLongWhole negative significand dropped s = .ok (n, rest)) :
    rest.length ≤ s.length := by
  unfold readAfterLongWhole at h
  split at h
  · exact Nat.le_trans (length_le_of_readFraction h) (Nat.le_succ _)
  · exact length_le_of_readAfterDigits h

theorem length_le_of_readNumber {negative : Bool} {s rest : Text} {n : Numeric}
    (h : readNumber negative s = .ok (n, rest)) : rest.length ≤ s.length := by
  unfold readNumber at h
  split at h
  · cases h
  · rename_i c r
    have hg := length_gatherDigits_le significandLimit (digitValue c) 1 r
    simp only [List.length_cons]
    split at h
    · split at h
      · cases h
      · exact Nat.le_trans (length_le_of_readAfterWhole h) (Nat.le_succ _)
    · split at h
      · simp only at h
        split at h
        · have h1 := length_le_of_readAfterLongWhole h
          have h2 := length_dropDigits_le
            (gatherDigits significandLimit (digitValue c) 1 r).rest
          omega
        · have h1 := length_le_of_readAfterWhole h
          omega
      · cases h

/-! ### Numbers that are passed over -/

/-- The text after an exponent part, after its `e`. -/
def skipExponent (s : Text) : Except Fault Text :=
  let s :=
    match s with
    | '+' :: rest => rest
    | '-' :: rest => rest
    | s => s
  if startsWithDigit s then .ok (dropDigits s)
  else .error (.next .invalidNumber s)

/-- The text after what follows the digits of a number. -/
def skipAfterDigits (s : Text) : Except Fault Text :=
  match s with
  | 'e' :: rest => skipExponent rest
  | 'E' :: rest => skipExponent rest
  | s => .ok s

/-- The text after a number, after its sign. -/
def skipNumber (s : Text) : Except Fault Text :=
  match s with
  | [] => .error (.here .invalidNumber [])
  | c :: rest =>
    if c = '0' ∧ startsWithDigit rest then .error (.next .invalidNumber rest)
    else if c.isDigit then
      match dropDigits rest with
      | '.' :: fraction =>
        if startsWithDigit fraction then skipAfterDigits (dropDigits fraction)
        else .error (.next .invalidNumber fraction)
      | s => skipAfterDigits s
    else .error (.next .invalidNumber (c :: rest))

theorem length_le_of_skipExponent {s rest : Text} (h : skipExponent s = .ok rest) :
    rest.length ≤ s.length := by
  have digits : ∀ {t : Text},
      (if startsWithDigit t then .ok (dropDigits t) else .error (.next .invalidNumber t)) =
        (.ok rest : Except Fault Text) → rest.length ≤ t.length := by
    intro t h
    split at h
    · simp only [Except.ok.injEq] at h
      rw [← h]
      exact length_dropDigits_le t
    · simp at h
  unfold skipExponent at h
  simp only at h
  have := digits h
  split at this <;> grind

theorem length_le_of_skipAfterDigits {s rest : Text} (h : skipAfterDigits s = .ok rest) :
    rest.length ≤ s.length := by
  unfold skipAfterDigits at h
  split at h
  · exact Nat.le_trans (length_le_of_skipExponent h) (Nat.le_succ _)
  · exact Nat.le_trans (length_le_of_skipExponent h) (Nat.le_succ _)
  · simp only [Except.ok.injEq] at h
    simp [h]

theorem length_lt_of_skipNumber {s rest : Text} (h : skipNumber s = .ok rest) :
    rest.length < s.length := by
  cases s with
  | nil => simp [skipNumber] at h
  | cons c s =>
    rw [skipNumber] at h
    split at h
    · simp at h
    · split at h
      · have hd := length_dropDigits_le s
        split at h
        · rename_i fraction heq
          split at h
          · have h1 := length_le_of_skipAfterDigits h
            have h2 := length_dropDigits_le fraction
            rw [heq] at hd
            simp at hd ⊢
            omega
          · simp at h
        · have := length_le_of_skipAfterDigits h
          simp
          omega
      · simp at h

end Json

end ThresholdCheck
