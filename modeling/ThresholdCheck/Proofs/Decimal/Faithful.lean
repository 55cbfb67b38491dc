import ThresholdCheck.Proofs.Decimal.Digits
import ThresholdCheck.Proofs.Decimal.Literal

/-!
# Measured values are shown faithfully

A measured value is shown by one of two ways: a whole number of 64 bits as the integer that it is,
any other number with six fraction digits. Which way is taken makes no difference to what the text
says. Both say the same multiple of a millionth, the one that is nearest to the value; for an
integer this is the integer itself. So what is true of rounding to millionths is true of the texts:
they are off by half a millionth at most, and they are in the order of the values, also where one
way ends and the other begins.

## Main definitions

* `Text.Denotes` — the rational that a text says
* `Decimal.Plain` — notation without superfluous zeros and without an exponent
* `Binary64.shown` — a number rounded to millionths
* `Binary64.ShownAs` — a number and how it is shown

## Main results

* `Binary64.toRat_eq_intCast_iff`, `Binary64.whole?_eq_some_iff` — which numbers are integers
* `Binary64.abs_shown_sub_le`, `Binary64.shown_eq_toRat`, `Binary64.shown_le` — rounding to
  millionths
* `Binary64.exists_plain_valueText` — what the text of a value looks like, and what it says
* `Binary64.valueText_faithful` — all of it
-/

namespace ThresholdCheck

/- Powers of natural numbers are the core library's, whatever else is loaded. -/
attribute [local instance (2000)] instPowNat

/-! ### Plain notation -/

/-- The text is a decimal, and this is its exact value. -/
def Text.Denotes (t : Text) (q : ℚ) : Prop := ∃ negative, t.IsDecimal negative q

/-- A text says one rational at most. -/
theorem Text.Denotes.unique {t : Text} {p q : ℚ} (h : t.Denotes p) (h' : t.Denotes q) : p = q := by
  obtain ⟨negative, h⟩ := h
  obtain ⟨negative', h'⟩ := h'
  obtain ⟨coefficient, scale, hread, rfl⟩ := Text.isDecimal_iff.1 h
  obtain ⟨coefficient', scale', hread', rfl⟩ := Text.isDecimal_iff.1 h'
  cases hread.symm.trans hread'
  rfl

namespace Decimal

/-- The digits behind the point, with the point. -/
def pointed (digits : Text) : Text := if digits = [] then [] else '.' :: digits

/-- A decimal in plain notation: a minus or nothing, a whole part that begins with a zero only if
there is no other digit in it, and then a point with digits, or nothing. -/
structure Plain (t : Text) (negative : Bool) (whole digits : Text) : Prop where
  text_eq : t = Binary64.signText negative ++ (whole ++ pointed digits)
  whole_ne_nil : whole ≠ []
  isDigit_of_mem_whole : ∀ c ∈ whole, c.isDigit
  isDigit_of_mem_digits : ∀ c ∈ digits, c.isDigit
  eq_zero_of_head : whole.head? = some '0' → whole = ['0']

/-- What plain notation says. -/
theorem Plain.denotes {t : Text} {negative : Bool} {whole digits : Text}
    (h : Plain t negative whole digits) :
    t.Denotes (signedRat negative (exactValue whole digits 0)) := by
  have hsign : IsSign (Binary64.signText negative) negative := by
    cases negative with
    | false => exact .none
    | true => exact .minus
  have hfraction : IsFraction (pointed digits) := by
    rw [pointed]
    split
    · exact .inl rfl
    · exact .inr ⟨digits, rfl, h.isDigit_of_mem_digits⟩
  have hdigits : (pointed digits).tail = digits := by
    rw [pointed]
    split
    · rename_i hnil
      exact hnil.symm
    · rfl
  have hparts : Parts (whole ++ pointed digits) whole (pointed digits) [] 0 :=
    ⟨by rw [List.append_nil], h.isDigit_of_mem_whole, hfraction, .inl h.whole_ne_nil, .none⟩
  have hdecimal := Text.IsDecimal.intro hsign hparts
  rw [hdigits, ← h.text_eq] at hdecimal
  exact ⟨negative, hdecimal⟩

/-- A natural number has no superfluous zeros. -/
theorem natural_eq_zero_of_head {n : Nat} (h : (natural n).head? = some '0') :
    natural n = ['0'] := by
  obtain rfl : n = 0 := by
    by_contra hne
    exact head?_natural_ne hne h
  decide

end Decimal

/-! ### Millionths -/

/-- A larger quotient is not rounded to a smaller number. -/
theorem roundHalfEven_le_of_le {num num' den : Nat} (h : num ≤ num') :
    roundHalfEven num den ≤ roundHalfEven num' den := by
  have hdiv : num / den ≤ num' / den := Nat.div_le_div_right h
  have hnum := Nat.div_add_mod num den
  have hnum' := Nat.div_add_mod num' den
  rcases Nat.lt_or_eq_of_le hdiv with hlt | heq
  · exact (roundHalfEven_le_succ num den).trans (Nat.le_trans hlt (div_le_roundHalfEven num' den))
  · rw [← heq] at hnum'
    have hmod : num % den ≤ num' % den := by omega
    rcases roundHalfEven_cases num den with ⟨hround, _, _⟩ | ⟨hround, _, _⟩ <;>
      rcases roundHalfEven_cases num' den with ⟨hround', _, _⟩ | ⟨hround', _, _⟩ <;> omega

namespace Magnitude

variable {m m' : Magnitude}

/-- How many millionths the magnitude has, rounded to the nearest count. -/
def millionths (m : Magnitude) : Nat :=
  roundHalfEven (10 ^ fractionDigits * m.units) unitsPerOne

/-- The magnitude rounded to millionths. -/
def shown (m : Magnitude) : ℚ := m.millionths / (10 ^ fractionDigits : Nat)

theorem shown_nonneg (m : Magnitude) : 0 ≤ m.shown := by
  unfold shown
  positivity

theorem shown_zero : zero.shown = 0 := by
  have hmillionths : zero.millionths = 0 := roundHalfEven_mul_left (n := 0) unitsPerOne_pos
  rw [shown, hmillionths, Nat.cast_zero, zero_div]

theorem shown_le (h : m.units ≤ m'.units) : m.shown ≤ m'.shown := by
  have hle : m.millionths ≤ m'.millionths :=
    roundHalfEven_le_of_le (Nat.mul_le_mul_left _ h)
  exact div_le_div_of_nonneg_right (by exact_mod_cast hle) (by positivity)

/-- As a quotient of units. -/
theorem shown_eq_quotient (m : Magnitude) :
    m.shown = (unitsPerOne * m.millionths : Nat) / (unitsPerOne * 10 ^ fractionDigits : Nat) := by
  rw [shown, Nat.cast_mul, Nat.cast_mul, mul_div_mul_left _ _ unitsPerOne_cast_pos.ne']

/-- Rounding to millionths is off by half of one at most. -/
theorem abs_shown_sub_le (m : Magnitude) : |m.shown - m.toRat| ≤ 1 / (2 * 10 ^ 6) := by
  have hden : 0 < 10 ^ fractionDigits := by decide
  have hpos : (0 : ℚ) < (unitsPerOne * 10 ^ fractionDigits : Nat) := by
    exact_mod_cast Nat.mul_pos unitsPerOne_pos hden
  have hhalf := dist_roundHalfEven_le_half unitsPerOne_pos (10 ^ fractionDigits * m.units)
  rw [← millionths, Nat.dist_comm, Nat.mul_comm _ m.units, Nat.mul_comm m.millionths] at hhalf
  have hcast : (2 : ℚ) * (Nat.dist (m.units * 10 ^ fractionDigits) (unitsPerOne * m.millionths) : ℕ)
      ≤ unitsPerOne := by exact_mod_cast hhalf
  rw [abs_sub_comm, shown_eq_quotient, abs_toRat_sub m _ hden, div_le_div_iff₀ hpos (by norm_num)]
  generalize Nat.dist _ _ = distance at hcast ⊢
  rw [fractionDigits]
  push_cast
  linarith

theorem toRat_of_isWhole (h : m.isWhole) : m.toRat = m.whole := by
  rw [toRat, isWhole_iff.1 h, Nat.cast_mul, mul_div_cancel_left₀ _ unitsPerOne_cast_pos.ne']

/-- A whole number has just its millionths. -/
theorem shown_of_isWhole (h : m.isWhole) : m.shown = m.toRat := by
  have hmillionths : m.millionths = 10 ^ fractionDigits * m.whole := by
    rw [millionths, isWhole_iff.1 h, Nat.mul_left_comm, roundHalfEven_mul_left unitsPerOne_pos]
  have hne : ((10 ^ fractionDigits : Nat) : ℚ) ≠ 0 := by exact_mod_cast (by decide)
  rw [shown, hmillionths, Nat.cast_mul, mul_div_cancel_left₀ _ hne, toRat_of_isWhole h]

/-- A magnitude is a natural number if it is a whole number. -/
theorem toRat_eq_natCast_iff {n : Nat} : m.toRat = n ↔ m.isWhole ∧ m.whole = n := by
  constructor
  · intro h
    have hunits : m.units = n * unitsPerOne := by
      rw [toRat, div_eq_iff unitsPerOne_cast_pos.ne'] at h
      exact_mod_cast h
    rw [isWhole_iff, whole, hunits, Nat.mul_div_cancel _ unitsPerOne_pos]
    exact ⟨Nat.mul_comm .., rfl⟩
  · rintro ⟨hwhole, rfl⟩
    exact toRat_of_isWhole hwhole

end Magnitude

namespace Binary64

/-- A finite number rounded to millionths. -/
def shown : Binary64 → ℚ
  | finite negative m => signedRat negative m.shown
  | _ => 0

/-! ### Integers -/

theorem signedRat_natCast (negative : Bool) (n : Nat) :
    signedRat negative n = (signed negative n : ℤ) := by
  cases negative <;> simp [signedRat, signed]

/-- A finite number is an integer if its magnitude is. -/
theorem toRat_eq_intCast_iff {negative : Bool} {m : Magnitude} {n : ℤ} :
    (finite negative m).toRat = n ↔ m.isWhole ∧ signed negative m.whole = n := by
  constructor
  · intro h
    have hnat : m.toRat = n.natAbs := by
      rw [Nat.cast_natAbs, Int.cast_abs, ← h, toRat, abs_signedRat, abs_of_nonneg m.toRat_nonneg]
    have hwhole := (Magnitude.toRat_eq_natCast_iff.1 hnat).1
    rw [toRat, Magnitude.toRat_of_isWhole hwhole, signedRat_natCast] at h
    exact ⟨hwhole, by exact_mod_cast h⟩
  · rintro ⟨hwhole, rfl⟩
    rw [toRat, Magnitude.toRat_of_isWhole hwhole, signedRat_natCast]

/-- The integers of 64 bits in two's complement. -/
theorem whole?_eq_some_iff {x : Binary64} {n : ℤ} :
    x.whole? = some n ↔ x.isFinite = true ∧ x.toRat = n ∧ -2 ^ 63 ≤ n ∧ n < 2 ^ 63 := by
  cases x with
  | nan => simp [whole?, isFinite]
  | infinite negative => simp [whole?, isFinite]
  | finite negative m =>
    have hlimit : wholeLimit = 2 ^ 63 := by norm_num [wholeLimit]
    simp only [whole?, isFinite, toRat_eq_intCast_iff, hlimit, Option.ite_none_right_eq_some,
      Option.some.injEq, true_and]
    constructor
    · rintro ⟨⟨hwhole, hlow, hhigh⟩, rfl⟩
      exact ⟨⟨hwhole, rfl⟩, hlow, hhigh⟩
    · rintro ⟨⟨hwhole, rfl⟩, hlow, hhigh⟩
      exact ⟨⟨hwhole, hlow, hhigh⟩, rfl⟩

/-! ### Rounding to millionths -/

theorem abs_shown_sub_le (x : Binary64) : |x.shown - x.toRat| ≤ 1 / (2 * 10 ^ 6) := by
  cases x with
  | finite negative m =>
    rw [shown, toRat, abs_signedRat_sub]
    exact m.abs_shown_sub_le
  | nan => simp [shown, toRat]
  | infinite negative => simp [shown, toRat]

/-- Integers are not rounded. -/
theorem shown_eq_toRat {x : Binary64} {n : ℤ} (h : x.toRat = n) : x.shown = x.toRat := by
  cases x with
  | finite negative m =>
    rw [shown, toRat, Magnitude.shown_of_isWhole (toRat_eq_intCast_iff.1 h).1]
  | nan => rfl
  | infinite negative => rfl

/-- Rounding keeps the order. -/
theorem shown_le {x y : Binary64} (hx : x.isFinite = true) (hy : y.isFinite = true)
    (h : x.le y = true) : x.shown ≤ y.shown := by
  obtain ⟨negative, m, rfl⟩ := exists_eq_finite hx
  obtain ⟨negative', m', rfl⟩ := exists_eq_finite hy
  change decide (signed negative m.units ≤ signed negative' m'.units) = true at h
  rw [decide_eq_true_iff] at h
  cases negative <;> cases negative' <;> simp only [shown, signedRat, signed, if_true, if_false,
    Bool.false_eq_true, neg_le_neg_iff] at h ⊢
  case false.false => exact Magnitude.shown_le (by omega)
  case true.true => exact Magnitude.shown_le (by omega)
  case true.false => linarith [m.shown_nonneg, m'.shown_nonneg]
  case false.true =>
    -- both are zero
    have hm : m.units = 0 := by omega
    have hm' : m'.units = 0 := by omega
    obtain rfl : m = .zero := Magnitude.eq_of_units_eq hm
    obtain rfl : m' = .zero := Magnitude.eq_of_units_eq hm'
    rw [Magnitude.shown_zero, neg_zero]

end Binary64

/-! ### Texts -/

namespace Decimal

theorem plain_integer (n : ℤ) : Plain (integer n) (decide (n < 0)) (natural n.natAbs) [] := by
  refine ⟨?_, natural_ne_nil _, fun _ => isDigit_of_mem_natural, by simp, natural_eq_zero_of_head⟩
  by_cases hn : n < 0 <;> simp [integer, Binary64.signText, pointed, hn]

theorem exactValue_integer (n : ℤ) :
    signedRat (decide (n < 0)) (exactValue (natural n.natAbs) [] 0) = n := by
  have hsigned : Binary64.signed (decide (n < 0)) n.natAbs = n := by
    by_cases hn : n < 0 <;> simp only [Binary64.signed, hn, decide_true, decide_false, if_true,
      Bool.false_eq_true, if_false] <;> omega
  rw [exactValue_eq, List.append_nil, ofDigitChars_natural, List.length_nil, Nat.cast_zero,
    sub_self, zpow_zero, mul_one, Binary64.signedRat_natCast, hsigned]

theorem plain_fixed (places : Nat) (negative : Bool) (n : Nat) :
    Plain (Binary64.signText negative ++ fixed places n) negative (natural (n / 10 ^ places))
      (padded places (n % 10 ^ places)) := by
  have hne : padded places (n % 10 ^ places) ≠ [] := by
    simp [padded, natural_ne_nil]
  refine ⟨?_, natural_ne_nil _, fun _ => isDigit_of_mem_natural, fun _ => isDigit_of_mem_padded,
    natural_eq_zero_of_head⟩
  rw [pointed, if_neg hne, fixed]

theorem exactValue_fixed {places : Nat} (hp : 0 < places) (n : Nat) :
    exactValue (natural (n / 10 ^ places)) (padded places (n % 10 ^ places)) 0 =
      n / (10 ^ places : Nat) := by
  have hmod : n % 10 ^ places < 10 ^ places := Nat.mod_lt _ (Nat.pow_pos (by decide))
  rw [exactValue_eq, ofDigitChars_fixed hp, length_padded hp hmod, zero_sub, zpow_neg, zpow_natCast,
    ← div_eq_mul_inv, Nat.cast_pow, Nat.cast_ofNat]

end Decimal

namespace Binary64

/-- What the text of a value looks like, and what it says. -/
theorem exists_plain_valueText {x : Binary64} (hx : x.isFinite = true) :
    ∃ negative whole digits, Decimal.Plain x.valueText negative whole digits ∧
      signedRat negative (Decimal.exactValue whole digits 0) = x.shown ∧
      digits.length = if x.whole?.isSome then 0 else fractionDigits := by
  rw [valueText]
  cases hwhole : x.whole? with
  | some n =>
    refine ⟨_, _, _, Decimal.plain_integer n, ?_, rfl⟩
    have hvalue := (whole?_eq_some_iff.1 hwhole).2.1
    rw [Decimal.exactValue_integer, shown_eq_toRat hvalue, hvalue]
  | none =>
    obtain ⟨negative, m, rfl⟩ := exists_eq_finite hx
    refine ⟨_, _, _, Decimal.plain_fixed _ negative m.millionths, ?_, ?_⟩
    · rw [Decimal.exactValue_fixed (by decide)]
      rfl
    · exact Decimal.length_padded (by decide) (Nat.mod_lt _ (by decide))

theorem denotes_valueText {x : Binary64} (hx : x.isFinite = true) :
    x.valueText.Denotes x.shown := by
  obtain ⟨negative, whole, digits, hplain, hvalue, -⟩ := exists_plain_valueText hx
  exact hvalue ▸ hplain.denotes

/-- How a value is shown: special values by name, and a finite one by the text of a decimal that is
off by half a millionth at most. -/
inductive ShownAs : Binary64 → Text → Prop
  | nan : ShownAs .nan "NaN".toList
  | infinite (negative : Bool) :
      ShownAs (.infinite negative) (if negative then "-Inf".toList else "+Inf".toList)
  | finite {x : Binary64} {q : ℚ} (hx : x.isFinite = true) (hq : x.valueText.Denotes q)
      (herror : |q - x.toRat| ≤ 1 / (2 * 10 ^ 6)) : ShownAs x x.valueText

theorem shownAs_valueText (x : Binary64) : x.ShownAs x.valueText := by
  cases x with
  | nan => exact .nan
  | infinite negative => exact .infinite negative
  | finite negative m => exact .finite rfl (denotes_valueText rfl) (abs_shown_sub_le _)

/-- **Values are shown faithfully.** The text of a finite number is in plain notation. It has no
fraction if the number is an integer of 64 bits in two's complement, and six digits of fraction if
it is not. The text says one rational. It is the number itself for every integer, of whatever size,
and off by half a millionth at most for every number. And the texts of two numbers in order are in
order, whichever of the two ways they are shown. -/
theorem valueText_faithful :
    (∀ x : Binary64, x.isFinite = true →
      (∃ negative whole digits, Decimal.Plain x.valueText negative whole digits ∧
        (digits = [] ↔ ∃ n : ℤ, x.toRat = n ∧ -2 ^ 63 ≤ n ∧ n < 2 ^ 63) ∧
        (digits ≠ [] → digits.length = 6)) ∧
      ∃ q, (∀ p, x.valueText.Denotes p ↔ p = q) ∧ (∀ n : ℤ, x.toRat = n → q = x.toRat) ∧
        |q - x.toRat| ≤ 1 / 2 * 10 ^ (-6 : ℤ)) ∧
    ∀ x y : Binary64, x.isFinite = true → y.isFinite = true → x.le y = true →
      ∀ p q, x.valueText.Denotes p → y.valueText.Denotes q → p ≤ q := by
  refine ⟨fun x hx => ⟨?_, x.shown, fun p => ?_, fun n => shown_eq_toRat, ?_⟩, ?_⟩
  · obtain ⟨negative, whole, digits, hplain, -, hlength⟩ := exists_plain_valueText hx
    have hinteger : (x.whole?.isSome = true) ↔
        ∃ n : ℤ, x.toRat = n ∧ -2 ^ 63 ≤ n ∧ n < 2 ^ 63 := by
      simp only [Option.isSome_iff_exists, whole?_eq_some_iff, hx, true_and]
    refine ⟨negative, whole, digits, hplain, ?_, ?_⟩
    · rw [← hinteger, ← List.length_eq_zero_iff, hlength]
      split <;> simp_all [fractionDigits]
    · intro hne
      rw [hlength, if_neg]
      · rfl
      · intro hsome
        rw [if_pos hsome, List.length_eq_zero_iff] at hlength
        exact hne hlength
  · constructor
    · exact fun h => h.unique (denotes_valueText hx)
    · rintro rfl
      exact denotes_valueText hx
  · have hhalf := x.abs_shown_sub_le
    norm_num at hhalf ⊢
    exact hhalf
  · intro x y hx hy hle p q hp hq
    rw [hp.unique (denotes_valueText hx), hq.unique (denotes_valueText hy)]
    exact shown_le hx hy hle

/-- The last number that is shown as an integer of 64 bits, and the next one. -/
theorem valueText_faithful_last_integer :
    let x := ofNat false 9223372036854774784
    let y := ofNat false 9223372036854775808
    x.isFinite = true ∧ y.isFinite = true ∧ x.le y = true ∧
      x.valueText = "9223372036854774784".toList ∧
      y.valueText = "9223372036854775808.000000".toList ∧
      ∃ p q, x.valueText.Denotes p ∧ y.valueText.Denotes q ∧ p ≤ q := by
  intro x y
  have hx : x.isFinite = true := by decide +kernel
  have hy : y.isFinite = true := by decide +kernel
  have hle : x.le y = true := by decide +kernel
  obtain ⟨hshown, horder⟩ := valueText_faithful
  obtain ⟨-, p, hp, -, -⟩ := hshown x hx
  obtain ⟨-, q, hq, -, -⟩ := hshown y hy
  have hp := (hp p).2 rfl
  have hq := (hq q).2 rfl
  exact ⟨hx, hy, hle, by decide +kernel, by decide +kernel, p, q, hp, hq,
    horder x y hx hy hle p q hp hq⟩

end Binary64

end ThresholdCheck
