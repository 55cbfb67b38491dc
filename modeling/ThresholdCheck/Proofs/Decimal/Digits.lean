import Mathlib.Data.List.DropRight
import ThresholdCheck.Decimal.Fixed

/-!
# Digit texts and their values

The count of digits tells the size of a number up to a factor of ten, because the first digit is
not a zero. Zeros at the end can be taken off; what remains still begins with the same digit.

## Main results

* `Decimal.ofDigitChars_lt` — a value is below the power of ten of its length
* `Decimal.lt_ten_pow_length`, `Decimal.ten_pow_le_of_ne_zero` — the length of a number
* `Decimal.head?_natural_ne` — no zero comes first
* `Decimal.exists_trimmed` — a number without its zeros at the end
-/

namespace ThresholdCheck

/- Powers of natural numbers are the core library's, whatever else is loaded. -/
attribute [local instance (2000)] instPowNat

namespace Decimal

theorem digit_lt_ten {c : Char} (h : c.isDigit) : c.toNat - '0'.toNat < 10 := by
  simp only [Char.isDigit, ge_iff_le, Bool.and_eq_true, decide_eq_true_eq,
    UInt32.le_iff_toNat_le] at h
  have hnine : ('9' : Char).val.toNat = 57 := rfl
  have hzero : '0'.toNat = 48 := rfl
  have hc : c.toNat = c.val.toNat := rfl
  omega

theorem ofDigitChars_lt {digits : Text} (h : ∀ c ∈ digits, c.isDigit) :
    Nat.ofDigitChars 10 digits 0 < 10 ^ digits.length := by
  induction digits with
  | nil => decide
  | cons c digits ih =>
    obtain ⟨hc, hdigits⟩ := List.forall_mem_cons.1 h
    have hlt := ih hdigits
    have hdigit := Nat.mul_le_mul_left (10 ^ digits.length) (Nat.le_of_lt_succ (digit_lt_ten hc))
    rw [Nat.ofDigitChars_cons, Nat.ofDigitChars_eq_ofDigitChars_zero, List.length_cons,
      Nat.pow_succ, Nat.mul_zero, Nat.zero_add]
    omega

variable {n : Nat}

theorem length_natural_pos (n : Nat) : 0 < (natural n).length := Nat.length_toDigits_pos

theorem lt_ten_pow_length (n : Nat) : n < 10 ^ (natural n).length :=
  (Nat.length_toDigits_le_iff (by decide) Nat.length_toDigits_pos).1 (Nat.le_refl _)

theorem ten_pow_le_of_ne_zero (h : n ≠ 0) : 10 ^ ((natural n).length - 1) ≤ n := by
  have hlength := length_natural_pos n
  by_contra hlt
  rcases Nat.eq_zero_or_pos ((natural n).length - 1) with hone | hmore
  · rw [hone] at hlt
    omega
  · have hshort : (natural n).length ≤ (natural n).length - 1 :=
      (Nat.length_toDigits_le_iff (by decide) hmore).2 (Nat.not_le.1 hlt)
    omega

theorem ofDigitChars_natural (n : Nat) : Nat.ofDigitChars 10 (natural n) 0 = n :=
  Nat.ofDigitChars_ten_toDigits

/-- No number but zero begins with a zero. -/
theorem head?_natural_ne (h : n ≠ 0) : (natural n).head? ≠ some '0' := by
  intro hhead
  obtain ⟨rest, hrest⟩ : ∃ rest, natural n = '0' :: rest := by
    cases hnatural : natural n with
    | nil => simp [hnatural] at hhead
    | cons c rest => exact ⟨rest, by simp_all⟩
  have hdigits : ∀ c ∈ rest, c.isDigit := fun c hc =>
    isDigit_of_mem_natural (n := n) (hrest ▸ List.mem_cons_of_mem _ hc)
  have hvalue : Nat.ofDigitChars 10 rest 0 = n := by
    have hn := ofDigitChars_natural n
    rwa [hrest, Nat.ofDigitChars_cons] at hn
  have hle := ten_pow_le_of_ne_zero h
  rw [hrest, List.length_cons, Nat.add_sub_cancel] at hle
  exact absurd hle (Nat.not_le.2 (hvalue ▸ ofDigitChars_lt hdigits))

/-- A text is what remains without the zeros at its end, and these zeros. -/
theorem eq_append_zeros (t : Text) :
    ∃ zeros, t = (t.reverse.dropWhile (· = '0')).reverse ++ List.replicate zeros '0' := by
  have hzeros : t.reverse.takeWhile (· = '0') =
      List.replicate (t.reverse.takeWhile (· = '0')).length '0' :=
    List.eq_replicate_of_mem fun c hc => by simpa using List.mem_takeWhile_imp hc
  refine ⟨(t.reverse.takeWhile (· = '0')).length, ?_⟩
  rw [← List.reverse_replicate, ← hzeros, ← List.reverse_append, List.takeWhile_append_dropWhile,
    List.reverse_reverse]

/-- A number other than zero, without the zeros at its end. -/
theorem exists_trimmed (h : n ≠ 0) :
    ∃ digits zeros, ((natural n).reverse.dropWhile (· = '0')).reverse = digits ∧
      (natural n).length = digits.length + zeros ∧ digits ≠ [] ∧ digits.head? ≠ some '0' ∧
      (∀ c ∈ digits, c.isDigit) ∧ n = Nat.ofDigitChars 10 digits 0 * 10 ^ zeros := by
  obtain ⟨zeros, hsplit⟩ := eq_append_zeros (natural n)
  have hhead := head?_natural_ne h
  have hdigits : ∀ c ∈ natural n, c.isDigit := fun c => isDigit_of_mem_natural
  have hvalue := ofDigitChars_natural n
  generalize ((natural n).reverse.dropWhile (· = '0')).reverse = digits at hsplit ⊢
  rw [hsplit] at hhead hdigits hvalue ⊢
  rw [Nat.ofDigitChars_append, Nat.ofDigitChars_replicate_zero, Nat.mul_comm] at hvalue
  have hne : digits ≠ [] := by
    rintro rfl
    rw [Nat.ofDigitChars_nil, Nat.zero_mul] at hvalue
    exact h hvalue.symm
  rw [List.head?_append_of_ne_nil _ hne] at hhead
  exact ⟨digits, zeros, rfl, by simp, hne, hhead,
    fun c hc => hdigits c (List.mem_append_left _ hc), hvalue.symm⟩

end Decimal

end ThresholdCheck
