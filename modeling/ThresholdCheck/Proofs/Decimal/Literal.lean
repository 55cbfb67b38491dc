import Mathlib.Tactic.FieldSimp
import ThresholdCheck.Proofs.Binary64.Rationals
import ThresholdCheck.Proofs.Decimal.ValueText

/-!
# The grammar of decimals

```
decimal  := [sign] (digit+ ["." digit*] | "." digit+) [exponent]
exponent := ("e" | "E") [sign] digit+
infinity := [sign] ("inf" | "infinity")
```

The letters of a name can have any case. A decimal has an exact value, that of its digits on both
sides of the point times the power of ten; the reader counts in whole coefficients instead, and
finds the same value.

## What makes it unambiguous

A decimal without its sign begins with a digit or with a point, and a name with a letter, so that
neither begins with a sign, and no text is both. Digits go on for as long as there are any, since
what follows them is a point, the mark of an exponent or nothing.

## Main definitions

* `IsSign`, `IsExponent`, `Decimal.Parts` — the parts of a decimal
* `Text.IsDecimal` — the decimals with their exact values
* `Text.IsInfinityName` — the spellings of an infinity

## Main results

* `Text.isDecimal_iff` — which texts are read as decimals, and with which value
* `Numeral.read?_eq_infinity_iff` — which texts are read as an infinity that is spelled out
-/

namespace ThresholdCheck

/- Powers of natural numbers are the core library's, whatever else is loaded. -/
attribute [local instance (2000)] instPowNat

/-! ### The parts -/

/-- A sign that is given or left out. -/
inductive IsSign : Text → Bool → Prop
  | none : IsSign [] false
  | plus : IsSign ['+'] false
  | minus : IsSign ['-'] true

/-- An exponent that is given or left out. -/
inductive IsExponent : Text → Int → Prop
  | none : IsExponent [] 0
  | power {mark : Char} {sign digits : Text} {negative : Bool} (hmark : mark = 'e' ∨ mark = 'E')
      (hsign : IsSign sign negative) (hne : digits ≠ []) (hdigits : ∀ c ∈ digits, c.isDigit) :
      IsExponent (mark :: (sign ++ digits))
        (Binary64.signed negative (Nat.ofDigitChars 10 digits 0))

/-- The parts of a decimal without a sign. There is a digit on one side of the point. -/
structure Decimal.Parts (t whole fraction exponent : Text) (power : Int) : Prop where
  text_eq : t = whole ++ (fraction ++ exponent)
  isDigit_of_mem : ∀ c ∈ whole, c.isDigit
  isFraction : Decimal.IsFraction fraction
  exists_digit : whole ≠ [] ∨ fraction.tail ≠ []
  isExponent : IsExponent exponent power

/-- The exact value of digits before and after a point, times a power of ten. -/
def Decimal.exactValue (whole digits : Text) (power : Int) : ℚ :=
  (Nat.ofDigitChars 10 whole 0 + Nat.ofDigitChars 10 digits 0 / 10 ^ digits.length) * 10 ^ power

/-- The text is a decimal with a sign or without one, which has this exact value. -/
inductive Text.IsDecimal : Text → Bool → ℚ → Prop
  | intro {sign body whole fraction exponent : Text} {negative : Bool} {power : Int}
      (hsign : IsSign sign negative) (hbody : Decimal.Parts body whole fraction exponent power) :
      Text.IsDecimal (sign ++ body) negative
        (signedRat negative (Decimal.exactValue whole fraction.tail power))

/-- The text spells an infinity, in any letter case. -/
inductive Text.IsInfinityName : Text → Bool → Prop
  | intro {sign name : Text} {negative : Bool} (hsign : IsSign sign negative)
      (hname : name.map Char.toLower = "inf".toList ∨ name.map Char.toLower = "infinity".toList) :
      Text.IsInfinityName (sign ++ name) negative

variable {t body rest sign whole fraction exponent : Text} {negative : Bool} {power : Int}

/-! ### What parts begin with -/

theorem IsExponent.head (h : IsExponent t power) :
    ∀ c ∈ t.head?, ¬ c.isDigit ∧ c ≠ '.' := by
  cases h with
  | none => simp
  | power hmark => rcases hmark with rfl | rfl <;> simp

theorem Numeral.ne_sign_of_isDigit {c : Char} (h : c.isDigit) : c ≠ '-' ∧ c ≠ '+' := by
  constructor <;> rintro rfl <;> exact absurd h (by decide)

theorem Numeral.ne_sign_of_isAlpha {c : Char} (h : c.isAlpha) : c ≠ '-' ∧ c ≠ '+' := by
  constructor <;> rintro rfl <;> exact absurd h (by decide)

namespace Decimal.Parts

/-- A decimal without its sign begins with a digit or with a point. -/
theorem exists_head (h : Parts t whole fraction exponent power) :
    ∃ c rest, t = c :: rest ∧ (c.isDigit ∨ c = '.') := by
  obtain ⟨rfl, hwhole, hfraction, hdigit, -⟩ := h
  cases whole with
  | cons c whole => exact ⟨c, _, rfl, .inl (hwhole c (List.mem_cons_self ..))⟩
  | nil =>
    obtain rfl | ⟨digits, rfl, -⟩ := hfraction
    · simp at hdigit
    · exact ⟨'.', _, rfl, .inr rfl⟩

theorem ne_sign (h : Parts t whole fraction exponent power) :
    ∀ c ∈ t.head?, c ≠ '-' ∧ c ≠ '+' := by
  obtain ⟨c, rest, rfl, hc⟩ := h.exists_head
  rintro d ⟨⟩
  rcases hc with hc | rfl
  · exact Numeral.ne_sign_of_isDigit hc
  · decide

/-- A decimal is no name. -/
theorem map_toLower_ne (h : Parts t whole fraction exponent power) (name : Text)
    (hname : name.all Char.isAlpha) : t.map Char.toLower ≠ name := by
  obtain ⟨c, rest, rfl, hc⟩ := h.exists_head
  refine Numeral.map_toLower_ne_of_not_isAlpha ?_ rest name hname
  rcases hc with hc | rfl
  · exact Numeral.not_isAlpha_of_isDigit hc
  · decide

end Decimal.Parts

/-- A name begins with a letter. -/
theorem ne_sign_of_infinity {name : Text}
    (h : name.map Char.toLower = "inf".toList ∨ name.map Char.toLower = "infinity".toList) :
    ∀ c ∈ name.head?, c ≠ '-' ∧ c ≠ '+' := by
  cases name with
  | nil => simp
  | cons c rest =>
    rintro d ⟨⟩
    refine Numeral.ne_sign_of_isAlpha ?_
    by_contra hc
    have hname := Numeral.map_toLower_ne_of_not_isAlpha hc rest
    rcases h with h | h
    · exact hname _ (by decide) h
    · exact hname _ (by decide) h

/-! ### What the reader takes off -/

namespace Numeral

theorem readSign_append (h : IsSign sign negative)
    (hbody : ∀ c ∈ body.head?, c ≠ '-' ∧ c ≠ '+') : readSign (sign ++ body) = (negative, body) := by
  cases h with
  | none =>
    cases body with
    | nil => rfl
    | cons c body => exact readSign_cons_of_ne (hbody c rfl).1 (hbody c rfl).2 body
  | plus => rfl
  | minus => rfl

theorem exists_sign_of_readSign (h : readSign t = (negative, body)) :
    ∃ sign, IsSign sign negative ∧ t = sign ++ body := by
  unfold readSign at h
  split at h <;> cases h
  · exact ⟨['-'], .minus, rfl⟩
  · exact ⟨['+'], .plus, rfl⟩
  · exact ⟨[], .none, rfl⟩

theorem readExponent?_eq_some_iff : readExponent? t = some power ↔ IsExponent t power := by
  constructor
  · intro h
    cases t with
    | nil =>
      cases h
      exact .none
    | cons mark rest =>
      rw [readExponent?] at h
      split at h
      · rename_i hmark
        rcases hs : readSign rest with ⟨negative, digits⟩
        obtain ⟨sign, hsign, rfl⟩ := exists_sign_of_readSign hs
        simp only [hs, Option.ite_none_left_eq_some, Bool.or_eq_true, not_or,
          List.isEmpty_iff, Bool.not_eq_true', Bool.not_eq_false, List.all_eq_true,
          Option.some.injEq] at h
        obtain ⟨⟨hne, hdigits⟩, rfl⟩ := h
        exact .power hmark hsign hne hdigits
      · cases h
  · rintro (_ | ⟨hmark, hsign, hne, hdigits⟩)
    · rfl
    · rename_i mark sign digits negative
      have hhead : ∀ c ∈ digits.head?, c ≠ '-' ∧ c ≠ '+' := fun c hc =>
        ne_sign_of_isDigit (hdigits c (List.mem_of_mem_head? hc))
      simpa [readExponent?, hmark, readSign_append hsign hhead, hne] using hdigits

theorem readFraction_append (h : Decimal.IsFraction fraction)
    (hrest : ∀ c ∈ rest.head?, ¬ c.isDigit ∧ c ≠ '.') :
    readFraction (fraction ++ rest) = (fraction.tail, rest) := by
  obtain rfl | ⟨digits, rfl, hdigits⟩ := h
  · rw [List.nil_append]
    unfold readFraction
    split
    · exact absurd rfl (hrest _ rfl).2
    · rfl
  · exact readDigits_append_of_not_isDigit hdigits fun c hc => (hrest c hc).1

theorem exists_fraction_of_readFraction {digits : Text} (h : readFraction t = (digits, rest)) :
    ∃ fraction, Decimal.IsFraction fraction ∧ fraction.tail = digits ∧ t = fraction ++ rest := by
  unfold readFraction at h
  split at h
  · rename_i s
    have hdigits : ∀ c ∈ digits, c.isDigit := by
      intro c hc
      refine isDigit_of_mem_readDigits (t := s) ?_
      rwa [h]
    have happend := readDigits_append s
    rw [h] at happend
    exact ⟨'.' :: digits, .inr ⟨digits, rfl, hdigits⟩, rfl, by rw [List.cons_append, happend]⟩
  · cases h
    exact ⟨[], .inl rfl, rfl, rfl⟩

/-- A text without a sign is read as the decimal of its parts. -/
theorem readDecimal?_eq_some_iff {numeral : Numeral} :
    readDecimal? negative t = some numeral ↔
      ∃ whole fraction exponent power, Decimal.Parts t whole fraction exponent power ∧
        numeral = decimal negative (Nat.ofDigitChars 10 (whole ++ fraction.tail) 0)
          (power - fraction.tail.length) := by
  constructor
  · intro h
    rcases hwhole : readDigits t with ⟨whole, rest⟩
    rcases hfraction : readFraction rest with ⟨digits, exponent⟩
    simp only [readDecimal?, hwhole, hfraction, Option.ite_none_left_eq_some, Bool.and_eq_true,
      List.isEmpty_iff, Option.map_eq_some_iff, readExponent?_eq_some_iff, not_and_or] at h
    obtain ⟨hdigit, power, hexponent, rfl⟩ := h
    obtain ⟨fraction, hshape, rfl, rfl⟩ := exists_fraction_of_readFraction hfraction
    have happend := readDigits_append t
    rw [hwhole] at happend
    refine ⟨whole, fraction, exponent, power, ⟨happend.symm, ?_, hshape, hdigit, hexponent⟩, rfl⟩
    intro c hc
    refine isDigit_of_mem_readDigits (t := t) ?_
    rwa [hwhole]
  · rintro ⟨whole, fraction, exponent, power, ⟨rfl, hwhole, hshape, hdigit, hexponent⟩, rfl⟩
    have hhead := hexponent.head
    have hdigits := readDigits_append_of_not_isDigit hwhole
      (hshape.not_isDigit_head fun c hc => (hhead c hc).1)
    have hsome : ¬ (whole = [] ∧ fraction.tail = []) := by rwa [not_and_or]
    simp [readDecimal?, hdigits, readFraction_append hshape hhead, hsome,
      readExponent?_eq_some_iff.2 hexponent]

theorem read?_append_eq_readDecimal? (hsign : IsSign sign negative)
    (hbody : Decimal.Parts body whole fraction exponent power) :
    read? (sign ++ body) = readDecimal? negative body := by
  have hname := hbody.map_toLower_ne
  simp only [read?, readSign_append hsign hbody.ne_sign, hname "inf".toList (by decide),
    hname "infinity".toList (by decide), hname "nan".toList (by decide), or_self, if_false]

theorem read?_eq_infinity_iff :
    read? t = some (.infinity negative) ↔ t.IsInfinityName negative := by
  constructor
  · intro h
    rcases hs : readSign t with ⟨sign, body⟩
    obtain ⟨text, hsign, rfl⟩ := exists_sign_of_readSign hs
    simp only [read?, hs] at h
    split at h
    · rename_i hname
      cases h
      exact .intro hsign hname
    · split at h
      · cases h
      · obtain ⟨_, _, _, _, -, hnumeral⟩ := readDecimal?_eq_some_iff.1 h
        cases hnumeral
  · rintro ⟨hsign, hname⟩
    rw [read?, readSign_append hsign (ne_sign_of_infinity hname)]
    exact if_pos hname

end Numeral

/-! ### Exact values -/

/-- With the point behind all digits. -/
theorem Decimal.exactValue_eq (whole digits : Text) (power : Int) :
    exactValue whole digits power =
      Nat.ofDigitChars 10 (whole ++ digits) 0 * 10 ^ (power - digits.length) := by
  have hten : (10 : ℚ) ^ digits.length ≠ 0 := pow_ne_zero _ (by norm_num)
  rw [exactValue, Nat.ofDigitChars_append, zpow_sub₀ (by norm_num), zpow_natCast,
    @Nat.ofDigitChars_eq_ofDigitChars_zero digits (Nat.ofDigitChars 10 whole 0)]
  push_cast
  field_simp

/-- The size of a decimal, in the terms of the reader. -/
theorem abs_decimal (negative : Bool) (coefficient : Nat) (scale : Int) :
    |signedRat negative (coefficient * 10 ^ scale)| = coefficient * 10 ^ scale := by
  rw [abs_signedRat, abs_of_nonneg (by positivity)]

/-- **The reader finds the decimals with their exact values.** -/
theorem Text.isDecimal_iff {q : ℚ} :
    t.IsDecimal negative q ↔
      ∃ coefficient scale, Numeral.read? t = some (.decimal negative coefficient scale) ∧
        q = signedRat negative (coefficient * 10 ^ scale) := by
  constructor
  · rintro ⟨hsign, hbody⟩
    refine ⟨_, _, ?_, congrArg _ (Decimal.exactValue_eq _ _ _)⟩
    rw [Numeral.read?_append_eq_readDecimal? hsign hbody, Numeral.readDecimal?_eq_some_iff]
    exact ⟨_, _, _, _, hbody, rfl⟩
  · rintro ⟨coefficient, scale, hread, rfl⟩
    rcases hs : Numeral.readSign t with ⟨sign, body⟩
    obtain ⟨text, hsign, rfl⟩ := Numeral.exists_sign_of_readSign hs
    simp only [Numeral.read?, hs] at hread
    split at hread
    · cases hread
    · split at hread
      · cases hread
      · obtain ⟨_, _, _, _, hbody, hnumeral⟩ := Numeral.readDecimal?_eq_some_iff.1 hread
        cases hnumeral
        rw [← Decimal.exactValue_eq]
        exact .intro hsign hbody

end ThresholdCheck
