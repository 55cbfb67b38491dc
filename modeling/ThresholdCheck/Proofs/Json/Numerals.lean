import ThresholdCheck.Proofs.Decimal.ShortestText
import ThresholdCheck.Proofs.Json.Records

/-!
# Numbers are taken apart as they are written

A number is written as digits around a point, or with an exponent. Whichever of these it is, the
reader gathers the same digits into a significand and counts the same exponent: no digit is dropped,
as the significand stays below the limit. What is left to be read from the text is what followed
the number. The scaling of the significand, and with it the rounding, comes after that.

## Main definitions

* `Json.EndsNumber` — what can follow a number
* `Magnitude.written` — the significand and the exponent that a number is written with

## Main results

* `Json.readNumber_point` — digits around a point
* `Json.readNumber_shortestText`, `Json.readFloat_numberText` — a written number is taken apart as
  its significand and its exponent
* `Magnitude.readsBack_written` — this decimal would be rounded to the number
-/

namespace ThresholdCheck

/- Powers of natural numbers are the core library's, whatever else is loaded. -/
attribute [local instance (2000)] instPowNat

namespace Json

/-! ### Digits -/

/-- What can follow a number: nothing that would belong to it. -/
def EndsNumber (s : Text) : Prop :=
  ∀ c ∈ s.head?, c.isDigit = false ∧ c ≠ '.' ∧ c ≠ 'e' ∧ c ≠ 'E'

theorem EndsNumber.startsWithDigit {s : Text} (h : EndsNumber s) : startsWithDigit s = false := by
  cases s with
  | nil => rfl
  | cons c s => exact (h c rfl).1

theorem dropDigits_of_startsWithDigit {s : Text} (h : startsWithDigit s = false) :
    dropDigits s = s := by
  cases s with
  | nil => rfl
  | cons c s => exact List.dropWhile_cons_of_neg (Bool.eq_false_iff.1 h)

theorem le_ofDigitChars (digits : Text) (value : Nat) :
    value ≤ Nat.ofDigitChars 10 digits value := by
  rw [Nat.ofDigitChars_eq_ofDigitChars_zero]
  exact Nat.le_add_right_of_le (Nat.le_mul_of_pos_left _ (Nat.pow_pos (by decide)))

variable {limit value count : Nat} {digits rest : Text}

/-- Digits whose value stays below the limit are all gathered. -/
theorem gatherDigits_append (hdigits : ∀ c ∈ digits, c.isDigit)
    (hrest : startsWithDigit rest = false) (hlt : Nat.ofDigitChars 10 digits value < limit) :
    gatherDigits limit value count (digits ++ rest) =
      ⟨Nat.ofDigitChars 10 digits value, count + digits.length, rest⟩ := by
  induction digits generalizing value count with
  | nil =>
    cases rest with
    | nil => rfl
    | cons c rest =>
      have hc : c.isDigit = false := hrest
      simp [gatherDigits, hc]
  | cons c digits ih =>
    obtain ⟨hc, hmore⟩ := List.forall_mem_cons.1 hdigits
    have hnext : value * 10 + digitValue c = 10 * value + (c.toNat - '0'.toNat) := by
      rw [digitValue, Nat.mul_comm]
    rw [Nat.ofDigitChars_cons] at hlt ⊢
    have hsmall := Nat.lt_of_le_of_lt (le_ofDigitChars digits _) hlt
    rw [List.cons_append, gatherDigits, hnext, if_pos ⟨hc, hsmall⟩, ih hmore hlt,
      List.length_cons, Nat.add_assoc, Nat.add_comm 1]

/-! ### The parts of a number -/

variable {negative : Bool} {significand : Nat} {exponent : Int} {whole fraction s : Text}

theorem readAfterDigits_end (h : EndsNumber s) :
    readAfterDigits negative significand exponent s =
      readScaled negative significand exponent s := by
  cases s with
  | nil => rfl
  | cons c s =>
    obtain ⟨-, -, he, hE⟩ := h c rfl
    rw [readAfterDigits]
    · exact fun rest heq => he (List.cons.inj heq).1
    · exact fun rest heq => hE (List.cons.inj heq).1

/-- A whole part without a superfluous zero. -/
theorem readNumber_whole (hne : whole ≠ []) (hdigits : ∀ c ∈ whole, c.isDigit)
    (hhead : whole = ['0'] ∨ whole.head? ≠ some '0') (hrest : startsWithDigit rest = false)
    (hlt : Nat.ofDigitChars 10 whole 0 < significandLimit) :
    readNumber negative (whole ++ rest) =
      readAfterWhole negative (Nat.ofDigitChars 10 whole 0) rest := by
  rcases hhead with rfl | hhead
  · have hzero : Nat.ofDigitChars 10 ['0'] 0 = 0 := by decide
    simp [readNumber, hrest, hzero]
  · obtain ⟨c, digits, rfl⟩ := List.exists_cons_of_ne_nil hne
    obtain ⟨hc, hmore⟩ := List.forall_mem_cons.1 hdigits
    have hzero : c ≠ '0' := by simpa using hhead
    have hfirst : 10 * 0 + (c.toNat - '0'.toNat) = digitValue c := by
      rw [digitValue, Nat.mul_zero, Nat.zero_add]
    rw [Nat.ofDigitChars_cons, hfirst] at hlt ⊢
    simp only [List.cons_append, readNumber, if_neg hzero, if_pos hc,
      gatherDigits_append hmore hrest hlt, hrest, Bool.false_eq_true, if_false]

theorem readFraction_digits (hne : fraction ≠ []) (hdigits : ∀ c ∈ fraction, c.isDigit)
    (hrest : startsWithDigit rest = false)
    (hlt : Nat.ofDigitChars 10 fraction significand < significandLimit) :
    readFraction negative significand exponent (fraction ++ rest) =
      readAfterDigits negative (Nat.ofDigitChars 10 fraction significand)
        (exponent - fraction.length) rest := by
  have hlength : 0 < fraction.length := List.length_pos_of_ne_nil hne
  have hcount : ¬ (fraction.length = 0 ∧ (!startsWithDigit (fraction ++ rest)) = true) := by omega
  simp only [readFraction, gatherDigits_append hdigits hrest hlt, Nat.zero_add, if_neg hcount,
    dropDigits_of_startsWithDigit hrest]

theorem readExponentDigits_natural {n : Nat} {lowering : Bool}
    (hrest : startsWithDigit rest = false) (hlt : n < exponentLimit) :
    readExponentDigits negative significand exponent lowering (Decimal.natural n ++ rest) =
      readScaled negative significand (if lowering then exponent - n else exponent + n) rest := by
  have hvalue := Decimal.ofDigitChars_natural n
  have hdigits : ∀ c ∈ Decimal.natural n, c.isDigit := fun c => Decimal.isDigit_of_mem_natural
  obtain ⟨c, digits, hnatural⟩ := List.exists_cons_of_ne_nil (Decimal.natural_ne_nil n)
  rw [hnatural] at hvalue hdigits ⊢
  obtain ⟨hc, hmore⟩ := List.forall_mem_cons.1 hdigits
  have hfirst : 10 * 0 + (c.toNat - '0'.toNat) = digitValue c := by
    rw [digitValue, Nat.mul_zero, Nat.zero_add]
  rw [Nat.ofDigitChars_cons, hfirst] at hvalue
  have hgathered : gatherDigits exponentLimit (digitValue c) 1 (digits ++ rest) =
      ⟨n, 1 + digits.length, rest⟩ := by
    rw [gatherDigits_append hmore hrest (by rw [hvalue]; exact hlt), hvalue]
  simp only [List.cons_append, readExponentDigits, if_pos hc, hgathered, hrest,
    Bool.false_eq_true, if_false]

/-- An exponent part with its sign. -/
theorem readExponent_signed {k : Int} (hrest : startsWithDigit rest = false)
    (hlt : k.natAbs < exponentLimit) :
    readExponent negative significand exponent
        ((if k < 0 then ['-'] else ['+']) ++ Decimal.natural k.natAbs ++ rest) =
      readScaled negative significand (exponent + k) rest := by
  by_cases hk : k < 0
  · have hplace : exponent - (k.natAbs : Int) = exponent + k := by omega
    rw [if_pos hk, List.append_assoc, List.singleton_append, readExponent,
      readExponentDigits_natural hrest hlt, if_pos rfl, hplace]
  · have hplace : exponent + (k.natAbs : Int) = exponent + k := by omega
    rw [if_neg hk, List.append_assoc, List.singleton_append, readExponent,
      readExponentDigits_natural hrest hlt, if_neg Bool.false_ne_true, hplace]

/-- Digits around a point. -/
theorem readNumber_point (hwhole : whole ≠ []) (hfraction : fraction ≠ [])
    (hdigits : ∀ c ∈ whole ++ fraction, c.isDigit) (hhead : whole = ['0'] ∨ whole.head? ≠ some '0')
    (hrest : startsWithDigit rest = false)
    (hlt : Nat.ofDigitChars 10 (whole ++ fraction) 0 < significandLimit) :
    readNumber negative (whole ++ '.' :: (fraction ++ rest)) =
      readAfterDigits negative (Nat.ofDigitChars 10 (whole ++ fraction) 0) (-fraction.length)
        rest := by
  have hvalue : Nat.ofDigitChars 10 fraction (Nat.ofDigitChars 10 whole 0) =
      Nat.ofDigitChars 10 (whole ++ fraction) 0 := by
    rw [Nat.ofDigitChars_append, Nat.ofDigitChars_eq_ofDigitChars_zero]
  have hsmall := Nat.lt_of_le_of_lt (hvalue ▸ le_ofDigitChars fraction _) hlt
  rw [readNumber_whole hwhole (fun c hc => hdigits c (List.mem_append_left _ hc)) hhead rfl hsmall,
    readAfterWhole, readFraction_digits hfraction
      (fun c hc => hdigits c (List.mem_append_right _ hc)) hrest (hvalue ▸ hlt), hvalue,
    Int.zero_sub]

/-! ### The two notations -/

section Notations

variable {m : Magnitude} {point : Int}

theorem lt_significandLimit {n : Nat} (h : n ≤ 10 ^ 17) : n < significandLimit :=
  Nat.lt_of_le_of_lt h (by decide)

theorem isDigit_of_mem_zeros {n : Nat} {c : Char} (h : c ∈ List.replicate n '0') : c.isDigit := by
  rw [List.eq_of_mem_replicate h]
  rfl

/-- Zeros between the point and the digits. -/
theorem readNumber_positional_of_nonpos (h : m.Writes digits point) (hpoint : point ≤ 0)
    (hs : EndsNumber s) :
    readNumber negative (Decimal.positional digits point ++ s) =
      readScaled negative (Nat.ofDigitChars 10 digits 0) (point - digits.length) s := by
  have htext : Decimal.positional digits point ++ s =
      ['0'] ++ '.' :: ((List.replicate (-point).toNat '0' ++ digits) ++ s) := by
    simp [Decimal.positional, hpoint]
  have hdigits : ∀ c ∈ ['0'] ++ (List.replicate (-point).toNat '0' ++ digits), c.isDigit := by
    intro c hc
    rw [List.singleton_append, ← List.cons_append, ← List.replicate_succ, List.mem_append] at hc
    exact hc.elim isDigit_of_mem_zeros (h.isDigit c)
  have hvalue : Nat.ofDigitChars 10 (['0'] ++ (List.replicate (-point).toNat '0' ++ digits)) 0 =
      Nat.ofDigitChars 10 digits 0 := by
    rw [List.singleton_append, ← List.cons_append, ← List.replicate_succ,
      Nat.ofDigitChars_append, Nat.ofDigitChars_replicate_zero, Nat.mul_zero]
  have hplace : (-(List.replicate (-point).toNat '0' ++ digits).length : Int) =
      point - digits.length := by
    rw [List.length_append, List.length_replicate]
    omega
  rw [htext, readNumber_point (by decide) (by simp [h.ne_nil]) hdigits (.inl rfl)
    hs.startsWithDigit (hvalue ▸ lt_significandLimit h.value_le), readAfterDigits_end hs, hvalue,
    hplace]

theorem mul_ten_pow_le (hdigits : ∀ c ∈ digits, c.isDigit) (hlength : digits.length ≤ point)
    (hpoint : point ≤ 16) :
    Nat.ofDigitChars 10 digits 0 * 10 ^ (point.toNat - digits.length + 1) ≤ 10 ^ 17 := by
  have hlt := Nat.le_of_lt (Decimal.ofDigitChars_lt hdigits)
  refine Nat.le_trans (Nat.mul_le_mul_right _ hlt) ?_
  rw [← Nat.pow_add]
  exact Nat.pow_le_pow_right (by decide) (by omega)

/-- Zeros between the digits and the point. -/
theorem readNumber_positional_of_length_le (h : m.Writes digits point)
    (hlength : digits.length ≤ point) (hpoint : point ≤ 16) (hs : EndsNumber s) :
    readNumber negative (Decimal.positional digits point ++ s) =
      readScaled negative
        (Nat.ofDigitChars 10 digits 0 * 10 ^ (point.toNat - digits.length + 1)) (-1) s := by
  have hpositive : 0 < digits.length := List.length_pos_of_ne_nil h.ne_nil
  have htext : Decimal.positional digits point ++ s =
      (digits ++ List.replicate (point.toNat - digits.length) '0') ++ '.' :: (['0'] ++ s) := by
    rw [Decimal.positional, if_neg (by omega), if_pos hlength]
    simp
  have hzeros : digits ++ List.replicate (point.toNat - digits.length) '0' ++ ['0'] =
      digits ++ List.replicate (point.toNat - digits.length + 1) '0' := by
    rw [List.append_assoc, List.replicate_succ']
  have hdigits : ∀ c ∈ digits ++ List.replicate (point.toNat - digits.length) '0' ++ ['0'],
      c.isDigit := by
    intro c hc
    rw [hzeros, List.mem_append] at hc
    exact hc.elim (h.isDigit c) isDigit_of_mem_zeros
  have hhead : digits ++ List.replicate (point.toNat - digits.length) '0' = ['0'] ∨
      (digits ++ List.replicate (point.toNat - digits.length) '0').head? ≠ some '0' := by
    rcases h.head with ⟨hzero, hone⟩ | hhead
    · exact .inl (by rw [hzero, hone]; rfl)
    · exact .inr (by rwa [List.head?_append_of_ne_nil _ h.ne_nil])
  have hvalue : Nat.ofDigitChars 10
      (digits ++ List.replicate (point.toNat - digits.length) '0' ++ ['0']) 0 =
        Nat.ofDigitChars 10 digits 0 * 10 ^ (point.toNat - digits.length + 1) := by
    rw [hzeros, Nat.ofDigitChars_append, Nat.ofDigitChars_replicate_zero, Nat.mul_comm]
  have hsmall := mul_ten_pow_le h.isDigit hlength hpoint
  rw [htext, readNumber_point (by simp [h.ne_nil]) (by decide) hdigits hhead
    hs.startsWithDigit (hvalue ▸ lt_significandLimit hsmall), readAfterDigits_end hs, hvalue]
  rfl

/-- The point between two digits. -/
theorem readNumber_positional_of_lt_length (h : m.Writes digits point) (hpoint : 0 < point)
    (hlength : point < digits.length) (hs : EndsNumber s) :
    readNumber negative (Decimal.positional digits point ++ s) =
      readScaled negative (Nat.ofDigitChars 10 digits 0) (point - digits.length) s := by
  have htext : Decimal.positional digits point ++ s =
      digits.take point.toNat ++ '.' :: (digits.drop point.toNat ++ s) := by
    rw [Decimal.positional, if_neg (by omega), if_neg (by omega), List.append_assoc,
      List.cons_append]
  have hsplit := List.take_append_drop point.toNat digits
  have hwhole : digits.take point.toNat ≠ [] := by
    rw [Ne, List.take_eq_nil_iff, not_or]
    exact ⟨by omega, h.ne_nil⟩
  have hfraction : digits.drop point.toNat ≠ [] := by
    rw [Ne, List.drop_eq_nil_iff]
    omega
  have hhead : digits.take point.toNat = ['0'] ∨ (digits.take point.toNat).head? ≠ some '0' := by
    rcases h.head with ⟨hzero, hone⟩ | hhead
    · rw [hzero, hone] at hlength
      exact absurd hlength (by decide)
    · right
      rwa [← hsplit, List.head?_append_of_ne_nil _ hwhole] at hhead
  have hplace : (-(digits.drop point.toNat).length : Int) = point - digits.length := by
    rw [List.length_drop]
    omega
  rw [htext, readNumber_point hwhole hfraction (hsplit.symm ▸ h.isDigit) hhead hs.startsWithDigit
    (hsplit.symm ▸ lt_significandLimit h.value_le), readAfterDigits_end hs, hsplit, hplace]

/-- The point after the first digit, and an exponent. -/
theorem readNumber_scientific (h : m.Writes digits point) (hs : EndsNumber s) :
    readNumber negative (Decimal.scientific true digits point ++ s) =
      readScaled negative (Nat.ofDigitChars 10 digits 0) (point - digits.length) s := by
  obtain ⟨c, more, rfl⟩ := List.exists_cons_of_ne_nil h.ne_nil
  have hexponent : (point - 1).natAbs < exponentLimit := by
    have hge := h.point_ge
    have hle := h.point_le
    rw [exponentLimit]
    omega
  have hhead : [c] = ['0'] ∨ [c].head? ≠ some '0' := by
    rcases h.head with ⟨hzero, -⟩ | hhead
    · exact .inl (by rw [(List.cons.inj hzero).1])
    · exact .inr hhead
  cases more with
  | nil =>
    have htext : Decimal.scientific true [c] point ++ s = [c] ++ 'e' ::
        ((if point - 1 < 0 then ['-'] else ['+']) ++ Decimal.natural (point - 1).natAbs ++ s) := by
      simp [Decimal.scientific]
    rw [htext, readNumber_whole (by simp) h.isDigit hhead rfl (lt_significandLimit h.value_le),
      readAfterWhole, readExponent_signed hs.startsWithDigit hexponent, Int.zero_add]
    rfl
  | cons d more =>
    have htext : Decimal.scientific true (c :: d :: more) point ++ s =
        [c] ++ '.' :: ((d :: more) ++ 'e' :: ((if point - 1 < 0 then ['-'] else ['+']) ++
          Decimal.natural (point - 1).natAbs ++ s)) := by
      simp [Decimal.scientific]
    have hplace : (-(d :: more).length : Int) + (point - 1) = point - (c :: d :: more).length := by
      simp only [List.length_cons]
      omega
    rw [htext, readNumber_point (by simp) (by simp) h.isDigit hhead rfl
      (lt_significandLimit h.value_le), readAfterDigits,
      readExponent_signed hs.startsWithDigit hexponent, hplace]
    rfl

end Notations

end Json

/-! ### Numbers -/

namespace Magnitude

/-- Significand and exponent of a written number. Whole numbers in positional notation end with a
zero after the point. -/
def written (m : Magnitude) : Nat × Int :=
  let (digits, point) := m.shortest Json.numberLayout.tie
  if digits.length ≤ point ∧ point ≤ Json.numberLayout.greatestPoint then
    (Nat.ofDigitChars 10 digits 0 * 10 ^ (point.toNat - digits.length + 1), -1)
  else (Nat.ofDigitChars 10 digits 0, point - digits.length)

theorem written_fst_le (m : Magnitude) : m.written.1 ≤ 10 ^ 17 := by
  have h := m.writes_shortest Json.numberLayout.tie
  rw [written]
  simp only
  split
  · rename_i hlayout
    obtain ⟨hlength, hpoint⟩ := hlayout
    have hgreatest : Json.numberLayout.greatestPoint = 16 := rfl
    rw [hgreatest] at hpoint
    exact Json.mul_ten_pow_le h.isDigit hlength hpoint
  · exact h.value_le

/-- The decimal that is written would be rounded to the number. -/
theorem readsBack_written (m : Magnitude) : m.readsBack m.written.1 m.written.2 = true := by
  have h := m.writes_shortest Json.numberLayout.tie
  rw [written]
  simp only
  split
  · rename_i hlayout
    obtain ⟨hlength, -⟩ := hlayout
    rw [readsBack_mul_ten_pow]
    have hplace : (-1 : Int) + ((m.shortest Json.numberLayout.tie).2.toNat -
        (m.shortest Json.numberLayout.tie).1.length + 1 : Nat) =
          (m.shortest Json.numberLayout.tie).2 - (m.shortest Json.numberLayout.tie).1.length := by
      omega
    rw [hplace]
    exact h.readsBack
  · exact h.readsBack

end Magnitude

namespace Json

/-- A written number is taken apart as its significand and its exponent. -/
theorem readNumber_shortestText (negative : Bool) (m : Magnitude) {s : Text} (hs : EndsNumber s) :
    readNumber negative (m.shortestText numberLayout ++ s) =
      readScaled negative m.written.1 m.written.2 s := by
  have h := m.writes_shortest numberLayout.tie
  obtain ⟨digits, point, hshortest⟩ :
      ∃ digits point, m.shortest numberLayout.tie = (digits, point) := ⟨_, _, rfl⟩
  have htext : m.shortestText numberLayout = if -4 ≤ point ∧ point ≤ 16 then
      Decimal.positional digits point else Decimal.scientific true digits point := by
    rw [Magnitude.shortestText, hshortest]
    rfl
  have hwritten : m.written = if digits.length ≤ point ∧ point ≤ 16 then
      (Nat.ofDigitChars 10 digits 0 * 10 ^ (point.toNat - digits.length + 1), -1)
      else (Nat.ofDigitChars 10 digits 0, point - digits.length) := by
    rw [Magnitude.written, hshortest]
    rfl
  rw [hshortest] at h
  have hpositive : 0 < digits.length := List.length_pos_of_ne_nil h.ne_nil
  rw [htext, hwritten]
  by_cases hlayout : -4 ≤ point ∧ point ≤ 16
  · rw [if_pos hlayout]
    rcases Int.lt_or_le 0 point with hpoint | hpoint
    · by_cases hlength : digits.length ≤ point
      · rw [if_pos ⟨hlength, hlayout.2⟩, readNumber_positional_of_length_le h hlength hlayout.2 hs]
      · rw [if_neg fun hboth => hlength hboth.1,
          readNumber_positional_of_lt_length h hpoint (Int.not_le.1 hlength) hs]
    · rw [if_neg (by omega), readNumber_positional_of_nonpos h hpoint hs]
  · rw [if_neg hlayout, if_neg (by omega), readNumber_scientific h hs]

/-- A written number begins with a digit. -/
theorem exists_shortestText_eq_cons (m : Magnitude) :
    ∃ c t, m.shortestText numberLayout = c :: t ∧ c.isDigit := by
  have h := m.writes_shortest numberLayout.tie
  simp only [Magnitude.shortestText]
  generalize m.shortest numberLayout.tie = shortest at h ⊢
  obtain ⟨digits, point⟩ := shortest
  obtain ⟨c, more, rfl⟩ := List.exists_cons_of_ne_nil h.ne_nil
  have hc : c.isDigit := h.isDigit c List.mem_cons_self
  split
  · simp only [Decimal.positional]
    split
    · exact ⟨'0', _, rfl, rfl⟩
    · split
      · exact ⟨c, _, rfl, hc⟩
      · obtain ⟨k, hk⟩ : ∃ k, point.toNat = k + 1 := ⟨point.toNat - 1, by omega⟩
        rw [hk]
        exact ⟨c, _, rfl, hc⟩
  · exact ⟨c, _, rfl, hc⟩

theorem EndsEntry.endsNumber {s : Text} (h : EndsEntry s) : EndsNumber s := by
  intro c hc
  rcases h with h | h
  · obtain rfl : ',' = c := Option.some.inj (h.symm.trans hc)
    decide
  · obtain rfl : '}' = c := Option.some.inj (h.symm.trans hc)
    decide

theorem isBlank_of_isDigit {c : Char} (h : c.isDigit) : isBlank c = false := by
  cases hblank : isBlank c with
  | false => rfl
  | true =>
    simp only [isBlank, Bool.or_eq_true, decide_eq_true_eq] at hblank
    rcases hblank with ((rfl | rfl) | rfl) | rfl
    all_goals exact absurd h (by decide)

/-- A written number is read as what its significand and its exponent scale to. -/
theorem readFloat_numberText (negative : Bool) (m : Magnitude) {s : Text} (hs : EndsNumber s) :
    readFloat (numberText (.finite negative m) ++ s) =
      (readScaled negative m.written.1 m.written.2 s).map fun (n, after) => (n.value, after) := by
  have hread := readNumber_shortestText negative m hs
  rw [numberText, Binary64.shortestText, Binary64.signText]
  cases negative with
  | true =>
    rw [readFloat, if_pos rfl, List.append_assoc, List.singleton_append,
      skipBlanks_of_not_blank rfl]
    simp [hread]
  | false =>
    obtain ⟨c, t, htext, hc⟩ := exists_shortestText_eq_cons m
    have hminus : c ≠ '-' := by
      rintro rfl
      exact absurd hc (by decide)
    rw [htext] at hread ⊢
    rw [readFloat, if_neg Bool.false_ne_true, List.nil_append, List.cons_append,
      skipBlanks_of_not_blank (isBlank_of_isDigit hc)]
    rw [List.cons_append] at hread
    simp [hminus, hc, hread]

end Json

end ThresholdCheck
