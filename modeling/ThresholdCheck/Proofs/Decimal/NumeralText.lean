import Mathlib
import ThresholdCheck.Decimal.Numeral

/-!
# The texts of numbers

What a text looks like if it is the text of a number. Only letters, digits, signs and points occur
in one, so that none of the separators of ranges and measurements can; and a NaN has to be spelled.

## Main definitions

* `Numeral.isMark` — the characters of numbers
* `Text.IsNanName` — the spellings of NaN

## Main results

* `Numeral.isMark_of_mem` — a number consists of such characters
* `Numeral.read?_eq_nan_iff` — which texts are NaN
-/

namespace ThresholdCheck

namespace Numeral

/-- The characters that a number can be written with. -/
def isMark (c : Char) : Bool := c.isAlphanum || c = '+' || c = '-' || c = '.'

theorem isMark_of_isDigit {c : Char} (h : c.isDigit) : isMark c := by
  simp [isMark, Char.isAlphanum, h]

theorem isMark_of_isAlpha {c : Char} (h : c.isAlpha) : isMark c := by
  simp [isMark, Char.isAlphanum, h]

/-! ### Signs -/

/-- A sign and what follows it are all of the text. -/
theorem readSign_eq {t : Text} {negative : Bool} {body : Text}
    (h : readSign t = (negative, body)) :
    t = '-' :: body ∨ t = '+' :: body ∨ t = body := by
  unfold readSign at h
  split at h <;> cases h <;> simp

theorem readSign_cons_of_ne {c : Char} (hm : c ≠ '-') (hp : c ≠ '+') (t : Text) :
    readSign (c :: t) = (false, c :: t) := by
  unfold readSign
  split <;> simp_all

/-- The characters of a text are those of its sign and those of what follows. -/
theorem isMark_of_readSign {t body : Text} {negative : Bool} (h : readSign t = (negative, body))
    (hbody : ∀ c ∈ body, isMark c) : ∀ c ∈ t, isMark c := by
  rcases readSign_eq h with rfl | rfl | rfl
  · exact List.forall_mem_cons.2 ⟨by decide, hbody⟩
  · exact List.forall_mem_cons.2 ⟨by decide, hbody⟩
  · exact hbody

/-! ### Decimals -/

theorem isMark_of_readDigits {t : Text} (h : ∀ c ∈ (readDigits t).2, isMark c) :
    ∀ c ∈ t, isMark c := by
  intro c hc
  rw [← readDigits_append t, List.mem_append] at hc
  rcases hc with hc | hc
  · exact isMark_of_isDigit (isDigit_of_mem_readDigits hc)
  · exact h c hc

theorem isMark_of_readFraction {t : Text} (h : ∀ c ∈ (readFraction t).2, isMark c) :
    ∀ c ∈ t, isMark c := by
  unfold readFraction at h
  split at h
  · exact List.forall_mem_cons.2 ⟨by decide, isMark_of_readDigits h⟩
  · exact h

theorem isMark_of_readExponent? {t : Text} {exponent : Int}
    (h : readExponent? t = some exponent) : ∀ c ∈ t, isMark c := by
  unfold readExponent? at h
  split at h
  · simp
  · rename_i e rest
    split at h
    · rename_i he
      rcases hs : readSign rest with ⟨negative, digits⟩
      simp only [hs, Option.ite_none_left_eq_some, Bool.or_eq_true, not_or] at h
      have hdigits : ∀ c ∈ digits, isMark c := by
        intro c hc
        have hall : digits.all Char.isDigit := by simpa using h.1.2
        exact isMark_of_isDigit (List.all_eq_true.1 hall c hc)
      refine List.forall_mem_cons.2 ⟨?_, isMark_of_readSign hs hdigits⟩
      rcases he with rfl | rfl <;> decide
    · cases h

theorem isMark_of_readDecimal? {negative : Bool} {t : Text} {numeral : Numeral}
    (h : readDecimal? negative t = some numeral) : ∀ c ∈ t, isMark c := by
  rw [readDecimal?] at h
  simp only [Option.ite_none_left_eq_some, Option.map_eq_some_iff] at h
  obtain ⟨-, exponent, hexponent, -⟩ := h
  exact isMark_of_readDigits (isMark_of_readFraction (isMark_of_readExponent? hexponent))

theorem readDecimal?_ne_nan {negative : Bool} {t : Text} : readDecimal? negative t ≠ some nan := by
  rw [readDecimal?]
  simp only [ne_eq, Option.ite_none_left_eq_some, Option.map_eq_some_iff, not_and, not_exists]
  intro _ _ _
  simp

/-! ### Whole numbers -/

/-- A special name consists of letters. -/
theorem isMark_of_name {body name : Text} (hname : name.all Char.isAlpha)
    (h : body.map Char.toLower = name) : ∀ c ∈ body, isMark c := by
  intro c hc
  refine isMark_of_isAlpha ?_
  rw [← Char.isAlpha_toLower_eq_isAlpha]
  exact List.all_eq_true.1 hname _ (h ▸ List.mem_map_of_mem hc)

/-- Numbers consist of letters, digits, signs and points. -/
theorem isMark_of_mem {t : Text} {numeral : Numeral} (h : read? t = some numeral) :
    ∀ c ∈ t, isMark c := by
  rcases hs : readSign t with ⟨negative, body⟩
  refine isMark_of_readSign hs ?_
  simp only [read?, hs] at h
  split at h
  · rename_i hname
    rcases hname with hname | hname
    · exact isMark_of_name (by decide) hname
    · exact isMark_of_name (by decide) hname
  · split at h
    · rename_i hname
      exact isMark_of_name (by decide) hname
    · exact isMark_of_readDecimal? h

end Numeral

/-! ### NaN -/

/-- The spellings of NaN: in any letter case, with or without a sign. -/
def Text.IsNanName (t : Text) : Prop :=
  t.map Char.toLower ∈ ["nan".toList, "+nan".toList, "-nan".toList]

instance (t : Text) : Decidable (Text.IsNanName t) :=
  inferInstanceAs (Decidable (_ ∈ _))

/-- A sign has no case. -/
theorem toLower_eq_sign {c sign : Char} (hs : ¬ sign.isAlpha) (h : c.toLower = sign) :
    c = sign := by
  have hc : ¬ c.isUpper := by
    intro hupper
    rw [← h, Char.isAlpha_toLower_eq_isAlpha, Char.isAlpha, hupper] at hs
    exact hs rfl
  rwa [Char.toLower_eq_of_not_isUpper hc] at h

namespace Numeral

theorem read?_eq_nan_iff {t : Text} : read? t = some nan ↔ t.IsNanName := by
  have hbody : ∀ negative body, readSign t = (negative, body) →
      (read? t = some nan ↔ body.map Char.toLower = "nan".toList) := by
    intro negative body hs
    simp only [read?, hs]
    by_cases hnan : body.map Char.toLower = "nan".toList
    · simp [hnan]
    · simp only [hnan, if_false, iff_false]
      split
      · simp
      · exact readDecimal?_ne_nan
  cases t with
  | nil => simp [hbody false [] rfl, Text.IsNanName]
  | cons c t =>
    by_cases hm : c = '-'
    · subst hm
      simp [hbody true t rfl, Text.IsNanName]
    · by_cases hp : c = '+'
      · subst hp
        simp [hbody false t rfl, Text.IsNanName]
      · have hlower : ∀ sign, (sign = '-' ∨ sign = '+') → c.toLower ≠ sign := by
          rintro sign (rfl | rfl) hc
          · exact hm (toLower_eq_sign (by decide) hc)
          · exact hp (toLower_eq_sign (by decide) hc)
        rw [hbody false (c :: t) (readSign_cons_of_ne hm hp t)]
        simp [Text.IsNanName, hlower]

end Numeral

end ThresholdCheck
