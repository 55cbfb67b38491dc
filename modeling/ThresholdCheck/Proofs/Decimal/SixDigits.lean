import ThresholdCheck.Decimal.Fixed
import ThresholdCheck.Decimal.Numeral
import ThresholdCheck.Proofs.Binary64.Nearest
import ThresholdCheck.Proofs.Decimal.NumeralText

/-!
# Six digits, read again

A number written with six digits is read as another number in general, but as one that is written
with the same six digits. This holds without a condition: where numbers lie closer together than
the digits, the digits are what is kept, and where they lie further apart, the number itself is the
nearest to its own digits.

## Main results

* `Numeral.read?_fixed` — the numeral of a written decimal, exactly
* `Binary64.dist_roundUnits_roundHalfEven_le`, `Binary64.roundHalfEven_roundUnits` — a number
  rounded to a decimal grid and back to the format
* `Binary64.read?_fixedText_finite`, `Binary64.exists_read?_fixedText` — reading six digits
-/

namespace ThresholdCheck

/- Powers of natural numbers are the core library's, whatever else is loaded. -/
attribute [local instance (2000)] instPowNat

/-! ### Digits -/

namespace Decimal

theorem length_natural_le {width n : Nat} (hw : 0 < width) (h : n < 10 ^ width) :
    (natural n).length ≤ width :=
  (Nat.length_toDigits_le_iff (by decide) hw).2 h

theorem length_padded {width n : Nat} (hw : 0 < width) (h : n < 10 ^ width) :
    (padded width n).length = width := by
  have := length_natural_le hw h
  simp only [padded, List.length_append, List.length_replicate]
  omega

theorem isDigit_of_mem_padded {width n : Nat} {c : Char} (h : c ∈ padded width n) : c.isDigit := by
  rcases List.mem_append.1 h with h | h
  · rw [List.eq_of_mem_replicate h]
    decide
  · exact isDigit_of_mem_natural h

theorem ofDigitChars_padded (width n : Nat) : Nat.ofDigitChars 10 (padded width n) 0 = n := by
  simp [padded, natural, Nat.ofDigitChars_append, Nat.ofDigitChars_replicate_zero,
    Nat.ofDigitChars_ten_toDigits]

/-- The digits on both sides of the point, read as one number. -/
theorem ofDigitChars_fixed {places : Nat} (hp : 0 < places) (n : Nat) :
    Nat.ofDigitChars 10 (natural (n / 10 ^ places) ++ padded places (n % 10 ^ places)) 0 = n := by
  have hmod : n % 10 ^ places < 10 ^ places := Nat.mod_lt _ (Nat.pow_pos (by decide))
  rw [Nat.ofDigitChars_append, Nat.ofDigitChars_eq_ofDigitChars_zero, ofDigitChars_padded,
    length_padded hp hmod, natural, Nat.ofDigitChars_ten_toDigits]
  exact Nat.div_add_mod n _

end Decimal

namespace Numeral

/-- Digits are read up to the first character that is none. -/
theorem readDigits_append_of_not_isDigit {digits rest : Text} (h : ∀ c ∈ digits, c.isDigit)
    (hrest : ∀ c ∈ rest.head?, ¬ c.isDigit) : readDigits (digits ++ rest) = (digits, rest) := by
  have hstop : rest.takeWhile Char.isDigit = [] ∧ rest.dropWhile Char.isDigit = rest := by
    cases rest with
    | nil => exact ⟨rfl, rfl⟩
    | cons c rest =>
      have hc : ¬ c.isDigit := hrest c rfl
      simp [hc]
  rw [readDigits, List.takeWhile_append_of_pos h, List.dropWhile_append_of_pos h, hstop.1,
    hstop.2, List.append_nil]

theorem readDecimal?_fixed (negative : Bool) {places : Nat} (hp : 0 < places) (n : Nat) :
    readDecimal? negative (Decimal.fixed places n) =
      some (decimal negative n (-(places : Int))) := by
  have hmod : n % 10 ^ places < 10 ^ places := Nat.mod_lt _ (Nat.pow_pos (by decide))
  have hwhole : readDigits (Decimal.fixed places n) =
      (Decimal.natural (n / 10 ^ places), '.' :: Decimal.padded places (n % 10 ^ places)) :=
    readDigits_append_of_not_isDigit (fun _ => Decimal.isDigit_of_mem_natural)
      (by simp)
  have hfraction : readDigits (Decimal.padded places (n % 10 ^ places)) =
      (Decimal.padded places (n % 10 ^ places), []) := by
    have h : readDigits (Decimal.padded places (n % 10 ^ places) ++ []) =
        (Decimal.padded places (n % 10 ^ places), []) :=
      readDigits_append_of_not_isDigit (fun _ => Decimal.isDigit_of_mem_padded) (by simp)
    rwa [List.append_nil] at h
  have hne : (Decimal.natural (n / 10 ^ places)).isEmpty = false := by
    rw [List.isEmpty_eq_false_iff]
    exact Decimal.natural_ne_nil _
  simp [readDecimal?, hwhole, readFraction, hfraction, hne, readExponent?,
    Decimal.ofDigitChars_fixed hp, Decimal.length_padded hp hmod]

theorem not_isAlpha_of_isDigit {c : Char} (h : c.isDigit) : ¬ c.isAlpha := by
  simp only [Char.isDigit, Char.isAlpha, Char.isUpper, Char.isLower, ge_iff_le, Bool.and_eq_true,
    Bool.or_eq_true, decide_eq_true_eq, UInt32.le_iff_toNat_le] at h ⊢
  have hupper : ('9' : Char).val.toNat < ('A' : Char).val.toNat := by decide
  have hlower : ('9' : Char).val.toNat < ('a' : Char).val.toNat := by decide
  omega

/-- Special names begin with a letter. -/
theorem map_toLower_ne_of_not_isAlpha {c : Char} (hc : ¬ c.isAlpha) (t name : Text)
    (hname : name.all Char.isAlpha) : (c :: t).map Char.toLower ≠ name := by
  intro h
  have hmem : c.toLower ∈ name := h ▸ List.mem_map_of_mem (List.mem_cons_self ..)
  refine hc ?_
  rw [← Char.isAlpha_toLower_eq_isAlpha]
  exact List.all_eq_true.1 hname _ hmem

/-- A text that begins with a digit is read as a decimal. -/
theorem read?_signText_append {c : Char} (hc : c.isDigit) (negative : Bool) (t : Text) :
    read? (Binary64.signText negative ++ c :: t) = readDecimal? negative (c :: t) := by
  have hsign : readSign (Binary64.signText negative ++ c :: t) = (negative, c :: t) := by
    cases negative with
    | true => rfl
    | false =>
      refine readSign_cons_of_ne ?_ ?_ t
      · rintro rfl
        exact absurd hc (by decide)
      · rintro rfl
        exact absurd hc (by decide)
  have hname := map_toLower_ne_of_not_isAlpha (not_isAlpha_of_isDigit hc) t
  simp only [read?, hsign, hname "inf".toList (by decide), hname "infinity".toList (by decide),
    hname "nan".toList (by decide), or_self, if_false]

/-- A written decimal is read as just what was written. -/
theorem read?_fixed (negative : Bool) {places : Nat} (hp : 0 < places) (n : Nat) :
    read? (Binary64.signText negative ++ Decimal.fixed places n) =
      some (decimal negative n (-(places : Int))) := by
  have hdecimal := readDecimal?_fixed negative hp n
  rcases hdigits : Decimal.natural (n / 10 ^ places) with - | ⟨c, digits⟩
  · exact absurd hdigits (Decimal.natural_ne_nil _)
  · have hc : c.isDigit := by
      refine Decimal.isDigit_of_mem_natural (n := n / 10 ^ places) ?_
      rw [hdigits]
      exact List.mem_cons_self ..
    have htext : Decimal.fixed places n =
        c :: (digits ++ '.' :: Decimal.padded places (n % 10 ^ places)) := by
      rw [Decimal.fixed, hdigits, List.cons_append]
    rw [htext] at hdecimal ⊢
    rw [read?_signText_append hc, hdecimal]

end Numeral

/-! ### To the grid and back -/

namespace Binary64

section Grid

variable {d : Nat}

/-- What a number on the grid is read as is no further from it than the number it was rounded
from. -/
theorem dist_roundUnits_roundHalfEven_le (hd : 0 < d) (m : Magnitude) :
    Nat.dist (roundUnits (unitsPerOne * roundHalfEven (d * m.units) unitsPerOne) d * d)
      (unitsPerOne * roundHalfEven (d * m.units) unitsPerOne) ≤
        Nat.dist (roundHalfEven (d * m.units) unitsPerOne * unitsPerOne) (d * m.units) := by
  have h := dist_roundUnits_le (unitsPerOne * roundHalfEven (d * m.units) unitsPerOne) hd
    m.representable
  rw [Nat.mul_comm m.units, Nat.dist_comm (d * m.units), Nat.mul_comm unitsPerOne] at h
  rwa [Nat.mul_comm unitsPerOne]

/-- Rounding to the grid, to the format and to the grid again is rounding to the grid. -/
theorem roundHalfEven_roundUnits (hd : 0 < d) (m : Magnitude) :
    roundHalfEven
        (d * roundUnits (unitsPerOne * roundHalfEven (d * m.units) unitsPerOne) d) unitsPerOne =
      roundHalfEven (d * m.units) unitsPerOne := by
  have hback := dist_roundUnits_roundHalfEven_le hd m
  have hhalf := dist_roundHalfEven_le_half unitsPerOne_pos (d * m.units)
  have hcomm : ∀ n y, Nat.dist (n * unitsPerOne) (d * y) = Nat.dist (y * d) (unitsPerOne * n) :=
    fun n y => by rw [Nat.dist_comm, Nat.mul_comm d, Nat.mul_comm unitsPerOne]
  refine roundHalfEven_eq_of_dist unitsPerOne_pos ?_ ?_
  · rw [hcomm]
    omega
  · -- Half a step away on the way back means half a step away on the way to the grid.
    intro htie
    rw [hcomm] at htie
    exact even_of_dist_roundHalfEven_eq_half unitsPerOne_pos (by omega)

/-- The grid and the format together move a number by less than one, so that both stay clear of
overflow. -/
theorem lt_mul_overflowUnits (hd : 1 < d) (m : Magnitude) :
    roundHalfEven (d * m.units) unitsPerOne * unitsPerOne < d * overflowUnits ∧
      roundUnits (unitsPerOne * roundHalfEven (d * m.units) unitsPerOne) d * d
        < d * overflowUnits := by
  have hback := dist_roundUnits_roundHalfEven_le (Nat.lt_trans Nat.zero_lt_one hd) m
  have hhalf := dist_roundHalfEven_le_half unitsPerOne_pos (d * m.units)
  have hroom : d * m.units + d * unitsPerOne ≤ d * overflowUnits := by
    rw [← Nat.mul_add]
    exact Nat.mul_le_mul_left d m.representable.add_unitsPerOne_le
  have hunit : unitsPerOne < d * unitsPerOne := (Nat.lt_mul_iff_one_lt_left unitsPerOne_pos).2 hd
  rw [Nat.mul_comm unitsPerOne] at hback ⊢
  simp only [Nat.dist] at hback hhalf
  omega

theorem roundUnits_lt_overflowUnits (hd : 1 < d) (m : Magnitude) :
    roundUnits (unitsPerOne * roundHalfEven (d * m.units) unitsPerOne) d < overflowUnits := by
  have h := (lt_mul_overflowUnits hd m).2
  rw [Nat.mul_comm (roundUnits _ _)] at h
  exact Nat.lt_of_mul_lt_mul_left h

theorem roundHalfEven_lt_mul_two_pow (hd : 1 < d) (m : Magnitude) :
    roundHalfEven (d * m.units) unitsPerOne < d * 2 ^ (1024 : Nat) := by
  have h := (lt_mul_overflowUnits hd m).1
  rw [overflowUnits_eq_mul, Nat.mul_comm, Nat.mul_left_comm] at h
  exact Nat.lt_of_mul_lt_mul_left h

end Grid

/-- A decimal within the range of exponents is rounded as the quotient that it is. -/
theorem nearestDecimal_neg {places n : Nat} (hp : 0 < places) (hsmall : places ≤ 330)
    (hn : n < 10 ^ (310 + places)) (negative : Bool) :
    nearestDecimal negative n (-(places : Int)) =
      nearest negative (unitsPerOne * n) (10 ^ places) := by
  rcases Nat.eq_zero_or_pos n with rfl | hpos
  · have hzero : roundUnits 0 (10 ^ places) = 0 := by simp [roundUnits, roundHalfEven, excessBits]
    simp [nearestDecimal, nearest, Magnitude.nearest?, hzero, overflowUnits_pos, zero,
      Magnitude.zero]
  · have hlength : (Nat.toDigits 10 n).length ≤ 310 + places :=
      Decimal.length_natural_le (by omega) hn
    have hne : 0 < (Nat.toDigits 10 n).length := Nat.length_toDigits_pos
    rw [nearestDecimal, if_neg (by omega)]
    simp only
    rw [if_neg (by omega), if_neg (by omega), if_neg (by omega), Int.neg_neg, Int.toNat_natCast]

theorem one_lt_ten_pow_fractionDigits : 1 < 10 ^ fractionDigits := by decide

/-- Six digits of a finite number are read as the nearest number to them. -/
theorem read?_fixedText_finite (negative : Bool) (m : Magnitude) :
    ∃ y : Magnitude,
      y.units = roundUnits
        (unitsPerOne * roundHalfEven (10 ^ fractionDigits * m.units) unitsPerOne)
        (10 ^ fractionDigits) ∧
      read? (finite negative m).fixedText = some (finite negative y) := by
  have hlt := roundUnits_lt_overflowUnits one_lt_ten_pow_fractionDigits m
  refine ⟨⟨_, representable_roundUnits hlt⟩, rfl, ?_⟩
  have hn : roundHalfEven (10 ^ fractionDigits * m.units) unitsPerOne
      < 10 ^ (310 + fractionDigits) := by
    refine Nat.lt_trans (roundHalfEven_lt_mul_two_pow one_lt_ten_pow_fractionDigits m) ?_
    decide +kernel
  rw [read?, fixedText, Numeral.read?_fixed negative (by decide), Option.map_some, Numeral.value,
    nearestDecimal_neg (by decide) (by decide) hn, nearest, Magnitude.nearest?, dif_pos hlt]

/-- Every written number is read as one that is written alike. -/
theorem exists_read?_fixedText (x : Binary64) :
    ∃ y, read? x.fixedText = some y ∧ y.fixedText = x.fixedText := by
  cases x with
  | nan => exact ⟨nan, rfl, rfl⟩
  | infinite negative => cases negative <;> exact ⟨_, rfl, rfl⟩
  | finite negative m =>
    obtain ⟨y, hy, hread⟩ := read?_fixedText_finite negative m
    refine ⟨finite negative y, hread, ?_⟩
    rw [fixedText, fixedText, hy,
      roundHalfEven_roundUnits (Nat.lt_trans Nat.zero_lt_one one_lt_ten_pow_fractionDigits)]

end Binary64

end ThresholdCheck
