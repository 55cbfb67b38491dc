import ThresholdCheck.Decimal.Fixed
import ThresholdCheck.Proofs.Decimal.NumeralText
import ThresholdCheck.Proofs.Decimal.SixDigits

/-!
# The texts of measured values

A value is shown with nothing between it and its unit. Where the value ends can be told all the
same, because a value is either one of three names or digits, with a sign before them and a
fraction after them if there are any. The first two characters tell which it is, and digits go on
for as long as there are digits: all that a unit must not do is begin with one more of them, or
with the point of a fraction.

## Main definitions

* `Decimal.IsFraction` — a point and digits, or nothing
* `Binary64.specialNames`, `Binary64.IsValueText` — what the text of a value can look like

## Main results

* `Binary64.isValueText_valueText` — every value is shown as one of these
* `Binary64.IsValueText.append_inj` — where it ends is told by what follows
-/

namespace ThresholdCheck

namespace Decimal

/-- Digits are told from what follows them. -/
theorem digits_append_inj {digits digits' rest rest' : Text} (h : ∀ c ∈ digits, c.isDigit)
    (h' : ∀ c ∈ digits', c.isDigit) (hrest : ∀ c ∈ rest.head?, ¬ c.isDigit)
    (hrest' : ∀ c ∈ rest'.head?, ¬ c.isDigit) (heq : digits ++ rest = digits' ++ rest') :
    digits = digits' ∧ rest = rest' := by
  have hread := Numeral.readDigits_append_of_not_isDigit h hrest
  rw [heq, Numeral.readDigits_append_of_not_isDigit h' hrest', Prod.mk.injEq] at hread
  exact ⟨hread.1.symm, hread.2.symm⟩

/-- A fraction is a point and digits, or nothing at all. -/
def IsFraction (t : Text) : Prop := t = [] ∨ ∃ digits, t = '.' :: digits ∧ ∀ c ∈ digits, c.isDigit

/-- No digit follows the whole part: neither a fraction nor what is no number begins with one. -/
theorem IsFraction.not_isDigit_head {fraction rest : Text} (h : IsFraction fraction)
    (hrest : ∀ c ∈ rest.head?, ¬ c.isDigit) : ∀ c ∈ (fraction ++ rest).head?, ¬ c.isDigit := by
  obtain rfl | ⟨digits, rfl, -⟩ := h
  · exact hrest
  · simp

theorem IsFraction.append_inj {fraction fraction' rest rest' : Text} (h : IsFraction fraction)
    (h' : IsFraction fraction') (hrest : ∀ c ∈ rest.head?, ¬ c.isDigit ∧ c ≠ '.')
    (hrest' : ∀ c ∈ rest'.head?, ¬ c.isDigit ∧ c ≠ '.')
    (heq : fraction ++ rest = fraction' ++ rest') : fraction = fraction' ∧ rest = rest' := by
  obtain rfl | ⟨digits, rfl, hdigits⟩ := h <;> obtain rfl | ⟨digits', rfl, hdigits'⟩ := h'
  · exact ⟨rfl, heq⟩
  · -- A point on one side only would have to be the beginning of what follows.
    have hhead : '.' ∈ rest.head? := by
      rw [List.nil_append] at heq
      simp [heq]
    exact absurd rfl (hrest _ hhead).2
  · have hhead : '.' ∈ rest'.head? := by
      rw [List.nil_append] at heq
      simp [← heq]
    exact absurd rfl (hrest' _ hhead).2
  · obtain ⟨rfl, rfl⟩ := digits_append_inj hdigits hdigits' (fun c hc => (hrest c hc).1)
      (fun c hc => (hrest' c hc).1) (List.cons.inj heq).2
    exact ⟨rfl, rfl⟩

end Decimal

namespace Binary64

/-- The texts that are shown for numbers without digits. -/
def specialNames : List Text := ["NaN".toList, "+Inf".toList, "-Inf".toList]

/-- The texts that a measured value can be shown as. -/
inductive IsValueText : Text → Prop
  | special {name : Text} (hname : name ∈ specialNames) : IsValueText name
  | decimal (negative : Bool) {whole fraction : Text} (hne : whole ≠ [])
      (hwhole : ∀ c ∈ whole, c.isDigit) (hfraction : Decimal.IsFraction fraction) :
      IsValueText (signText negative ++ (whole ++ fraction))

/-! ### Every value is shown so -/

theorem isValueText_fixedText (x : Binary64) : IsValueText x.fixedText := by
  cases x with
  | nan => exact .special (by decide)
  | infinite negative => cases negative <;> exact .special (by decide)
  | finite negative m =>
    exact .decimal negative (Decimal.natural_ne_nil _) (fun _ => Decimal.isDigit_of_mem_natural)
      (.inr ⟨_, rfl, fun _ => Decimal.isDigit_of_mem_padded⟩)

theorem isValueText_integer (n : Int) : IsValueText (Decimal.integer n) := by
  have htext : Decimal.integer n =
      signText (decide (n < 0)) ++ (Decimal.natural n.natAbs ++ []) := by
    by_cases hn : n < 0 <;> simp [Decimal.integer, signText, hn]
  rw [htext]
  exact .decimal _ (Decimal.natural_ne_nil _) (fun _ => Decimal.isDigit_of_mem_natural) (.inl rfl)

/-- Zero is shown without its sign. -/
theorem valueText_zero (negative : Bool) : (zero negative).valueText = "0".toList := by
  have hwhole : (zero negative).whole? = some 0 := by
    cases negative <;> simp [zero, whole?, Magnitude.zero, Magnitude.isWhole, Magnitude.whole,
      signed, wholeLimit]
  rw [valueText, hwhole]
  rfl

theorem isValueText_valueText (x : Binary64) : IsValueText x.valueText := by
  rw [valueText]
  split
  · exact isValueText_integer _
  · exact isValueText_fixedText x

/-! ### Where a value ends -/

/-- Values consist of letters, digits, signs and points, as all numbers do. -/
theorem IsValueText.isMark_of_mem {t : Text} (h : IsValueText t) {c : Char} (hc : c ∈ t) :
    Numeral.isMark c := by
  cases h with
  | special hname =>
    have hall : ∀ name ∈ specialNames, name.all Numeral.isMark := by decide
    exact List.all_eq_true.1 (hall t hname) c hc
  | decimal negative hne hwhole hfraction =>
    rcases List.mem_append.1 hc with hc | hc
    · have hall : (signText negative).all Numeral.isMark := by cases negative <;> decide
      exact List.all_eq_true.1 hall c hc
    · rcases List.mem_append.1 hc with hc | hc
      · exact Numeral.isMark_of_isDigit (hwhole c hc)
      · obtain rfl | ⟨digits, rfl, hdigits⟩ := hfraction
        · cases hc
        · rcases List.mem_cons.1 hc with rfl | hc
          · decide
          · exact Numeral.isMark_of_isDigit (hdigits c hc)

/-- Names are told from each other by their first characters. -/
theorem append_inj_of_mem_specialNames {name name' rest rest' : Text} (h : name ∈ specialNames)
    (h' : name' ∈ specialNames) (heq : name ++ rest = name' ++ rest') :
    name = name' ∧ rest = rest' := by
  have hlength : ∀ name ∈ specialNames, ∀ name' ∈ specialNames,
      name.head? = name'.head? → name.length = name'.length := by decide
  have hne : ∀ name ∈ specialNames, name ≠ [] := by decide
  have hhead : name.head? = name'.head? := by
    rw [← List.head?_append_of_ne_nil name (hne name h), heq,
      List.head?_append_of_ne_nil name' (hne name' h')]
  exact List.append_inj heq (hlength name h name' h' hhead)

/-- A name has no digit among its first two characters, and a decimal has. -/
theorem ne_decimal_of_mem_specialNames {name whole rest rest' : Text} (h : name ∈ specialNames)
    (negative : Bool) (hne : whole ≠ []) (hwhole : ∀ c ∈ whole, c.isDigit) :
    name ++ rest ≠ signText negative ++ (whole ++ rest') := by
  intro heq
  obtain ⟨c, digits, rfl⟩ := List.exists_cons_of_ne_nil hne
  have hc : c.isDigit := hwhole c (List.mem_cons_self ..)
  have hname : ∀ name ∈ specialNames, ∃ c₁ c₂ more, name = c₁ :: c₂ :: more ∧
      ¬ c₁.isDigit ∧ ¬ c₂.isDigit := by
    simp [specialNames]
  obtain ⟨c₁, c₂, more, rfl, h₁, h₂⟩ := hname name h
  cases negative with
  | false => exact h₁ ((List.cons.inj heq).1 ▸ hc)
  | true => exact h₂ ((List.cons.inj (List.cons.inj heq).2).1 ▸ hc)

/-- A sign is told from the digits that follow it. -/
theorem signText_append_inj {negative negative' : Bool} {digits digits' rest rest' : Text}
    (hne : digits ≠ []) (hdigits : ∀ c ∈ digits, c.isDigit) (hne' : digits' ≠ [])
    (hdigits' : ∀ c ∈ digits', c.isDigit)
    (heq : signText negative ++ (digits ++ rest) = signText negative' ++ (digits' ++ rest')) :
    negative = negative' ∧ digits ++ rest = digits' ++ rest' := by
  obtain ⟨c, digits, rfl⟩ := List.exists_cons_of_ne_nil hne
  obtain ⟨c', digits', rfl⟩ := List.exists_cons_of_ne_nil hne'
  have hsign : ∀ {c : Char}, c.isDigit → '-' ≠ c := by
    rintro c hc rfl
    exact absurd hc (by decide)
  have hc := hsign (hdigits c (List.mem_cons_self ..))
  have hc' := hsign (hdigits' c' (List.mem_cons_self ..))
  cases negative <;> cases negative'
  · exact ⟨rfl, heq⟩
  · exact absurd (List.cons.inj heq).1.symm hc
  · exact absurd (List.cons.inj heq).1 hc'
  · exact ⟨rfl, (List.cons.inj heq).2⟩

/-- **A value is told from what follows it**, as long as that is not one more digit or a
fraction. -/
theorem IsValueText.append_inj {t t' rest rest' : Text} (h : IsValueText t) (h' : IsValueText t')
    (hrest : ∀ c ∈ rest.head?, ¬ c.isDigit ∧ c ≠ '.')
    (hrest' : ∀ c ∈ rest'.head?, ¬ c.isDigit ∧ c ≠ '.') (heq : t ++ rest = t' ++ rest') :
    t = t' ∧ rest = rest' := by
  cases h with
  | special hname =>
    cases h' with
    | special hname' => exact append_inj_of_mem_specialNames hname hname' heq
    | decimal negative hne hwhole hfraction =>
      rw [List.append_assoc, List.append_assoc] at heq
      exact absurd heq (ne_decimal_of_mem_specialNames hname negative hne hwhole)
  | decimal negative hne hwhole hfraction =>
    cases h' with
    | special hname' =>
      rw [List.append_assoc, List.append_assoc] at heq
      exact absurd heq.symm (ne_decimal_of_mem_specialNames hname' negative hne hwhole)
    | decimal negative' hne' hwhole' hfraction' =>
      simp only [List.append_assoc] at heq
      obtain ⟨rfl, hbody⟩ := signText_append_inj hne hwhole hne' hwhole' heq
      obtain ⟨rfl, hafter⟩ := Decimal.digits_append_inj hwhole hwhole'
        (hfraction.not_isDigit_head fun c hc => (hrest c hc).1)
        (hfraction'.not_isDigit_head fun c hc => (hrest' c hc).1) hbody
      obtain ⟨rfl, rfl⟩ := hfraction.append_inj hfraction' hrest hrest' hafter
      exact ⟨rfl, rfl⟩

end Binary64

end ThresholdCheck
