import ThresholdCheck.Json.Token

/-!
# Strings are read as they are written

Every character of a string is written either as itself or as an escape, and both are read back as
that character. So a string is read back whole, whatever it holds and whatever follows it.

## Main results

* `Json.escape_cases` — the two ways a character is written, and that escapes are read back
* `Json.readString_flatMap_escape` — a written string is read back
-/

namespace ThresholdCheck

namespace Json

/-! ### Escapes -/

/-- The four digits that a control character is written with have its code point as their value. -/
theorem readHex4_hex4 {n : Nat} (hn : n < 0x20) (s : Text) :
    readHex4 (hex4 n ++ s) = .ok (n, s) := by
  have hdigits : ∀ k < 0x20, ∃ c d,
      hex4 k = ['0', '0', c, d] ∧ hexDigits4? '0' '0' c d = some k := by
    intro k hk
    have hsplit : ∀ k < 0x20, hex4 k = ['0', '0', Nat.digitChar (k / 16), Nat.digitChar (k % 16)] ∧
        hexDigits4? '0' '0' (Nat.digitChar (k / 16)) (Nat.digitChar (k % 16)) = some k := by
      decide
    exact ⟨_, _, hsplit k hk⟩
  obtain ⟨c, d, hhex, hvalue⟩ := hdigits n hn
  simp [hhex, readHex4, hvalue]

theorem readUnicodeEscape_hex4 {c : Char} (hc : c.toNat < 0x20) (s : Text) :
    readUnicodeEscape (hex4 c.toNat ++ s) = .ok (c, s) := by
  have htrailing : isTrailing c.toNat = false := by
    simp [isTrailing]
    omega
  have hleading : isLeading c.toNat = false := by
    simp [isLeading]
    omega
  rw [readUnicodeEscape, readHex4_hex4 hc]
  simp [bind, Except.bind, htrailing, hleading, pure, Except.pure]

/-- A character is written as itself, unless it would end the string, begin an escape or break the
grammar; then it is written as an escape that is read as the character. -/
theorem escape_cases (c : Char) :
    (escape c = [c] ∧ c ≠ '"' ∧ c ≠ '\\' ∧ ¬ c.toNat < 0x20) ∨
      ∃ body, escape c = '\\' :: body ∧ ∀ s, readEscape (body ++ s) = .ok (c, s) := by
  rw [escape]
  split
  · rename_i h
    exact .inr ⟨['"'], rfl, fun s => by rw [h]; rfl⟩
  split
  · rename_i h
    exact .inr ⟨['\\'], rfl, fun s => by rw [h]; rfl⟩
  split
  · rename_i h
    exact .inr ⟨['b'], rfl, fun s => by rw [h]; rfl⟩
  split
  · rename_i h
    exact .inr ⟨['f'], rfl, fun s => by rw [h]; rfl⟩
  split
  · rename_i h
    exact .inr ⟨['n'], rfl, fun s => by rw [h]; rfl⟩
  split
  · rename_i h
    exact .inr ⟨['r'], rfl, fun s => by rw [h]; rfl⟩
  split
  · rename_i h
    exact .inr ⟨['t'], rfl, fun s => by rw [h]; rfl⟩
  split
  · rename_i h
    refine .inr ⟨'u' :: hex4 c.toNat, rfl, fun s => ?_⟩
    rw [List.cons_append, readEscape, if_pos rfl, readUnicodeEscape_hex4 h]
  · rename_i hquote hbackslash _ _ _ _ _ hcontrol
    exact .inl ⟨rfl, hquote, hbackslash, hcontrol⟩

/-! ### Strings -/

theorem readString_of_escape {s after t last : Text} {c : Char}
    (hc : readEscape s = .ok (c, after)) (ht : readString after = .ok (t, last)) :
    readString ('\\' :: s) = .ok (c :: t, last) := by
  rw [readString]
  simp only [Char.reduceEq, if_false, if_true]
  split
  · rename_i hfault
    rw [hc] at hfault
    cases hfault
  · rename_i hread
    rw [hc] at hread
    cases hread
    rw [ht]

theorem readString_of_plain {s t last : Text} {c : Char} (hquote : c ≠ '"')
    (hbackslash : c ≠ '\\') (hcontrol : ¬ c.toNat < 0x20) (ht : readString s = .ok (t, last)) :
    readString (c :: s) = .ok (c :: t, last) := by
  rw [readString]
  simp only [hquote, hbackslash, hcontrol, if_false, ht]

/-- A written string is read back, up to its closing quote. -/
theorem readString_flatMap_escape (t rest : Text) :
    readString (t.flatMap escape ++ '"' :: rest) = .ok (t, rest) := by
  induction t with
  | nil =>
    rw [List.flatMap_nil, List.nil_append, readString]
    rfl
  | cons c t ih =>
    rw [List.flatMap_cons, List.append_assoc]
    rcases escape_cases c with ⟨hplain, hquote, hbackslash, hcontrol⟩ | ⟨body, hbody, hread⟩
    · rw [hplain]
      exact readString_of_plain hquote hbackslash hcontrol ih
    · rw [hbody]
      exact readString_of_escape (hread _) ih

theorem quoted_append (t rest : Text) :
    quoted t ++ rest = '"' :: (t.flatMap escape ++ '"' :: rest) := by
  simp [quoted]

end Json

end ThresholdCheck
