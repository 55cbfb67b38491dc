import ThresholdCheck.Text.Unprinted

/-!
# Quoted texts

The form in which messages show a text given by the user: between double quotes, on one line, with
every character that is not printed written by its code point.

## Main definitions

* `Text.escapeQuoted` — one character inside the quotes
* `Text.quoted` — a whole text

## Main results

* `Text.newline_not_mem_quoted` — a quoted text stays on its line
* `Text.quoted_of_plain` — a plain text is shown as it is
-/

namespace ThresholdCheck

namespace Text

/-- A character inside a quoted text. NUL, tab, carriage return, newline, quote and backslash have
short forms; other characters that are not printed are written by their code point. -/
def escapeQuoted (c : Char) : Text :=
  if c = '\x00' then ['\\', '0']
  else if c = '\t' then ['\\', 't']
  else if c = '\r' then ['\\', 'r']
  else if c = '\n' then ['\\', 'n']
  else if c = '"' then ['\\', '"']
  else if c = '\\' then ['\\', '\\']
  else if isPrinted c then [c]
  else ['\\', 'u', '{'] ++ Nat.toDigits 16 c.toNat ++ ['}']

/-- A text between double quotes. -/
def quoted (t : Text) : Text := '"' :: (t.flatMap escapeQuoted ++ ['"'])

/-! ### One line -/

theorem exists_digitChar_of_mem_toDigits {n : Nat} {c : Char} (h : c ∈ Nat.toDigits 16 n) :
    ∃ k < 16, c = Nat.digitChar k := by
  induction n using Nat.strongRecOn with
  | _ n ih =>
    rcases Nat.lt_or_ge n 16 with hn | hn
    · rw [Nat.toDigits_of_lt_base hn] at h
      exact ⟨n, hn, by simpa using h⟩
    · rw [Nat.toDigits_of_base_le (by decide) hn] at h
      rcases List.mem_append.1 h with h | h
      · exact ih (n / 16) (Nat.div_lt_self (by omega) (by decide)) h
      · exact ⟨n % 16, Nat.mod_lt _ (by decide), by simpa using h⟩

theorem newline_not_mem_toDigits (n : Nat) : '\n' ∉ Nat.toDigits 16 n := by
  intro h
  obtain ⟨k, hk, hnewline⟩ := exists_digitChar_of_mem_toDigits h
  exact absurd hnewline ((by decide : ∀ k < 16, '\n' ≠ Nat.digitChar k) k hk)

theorem newline_not_mem_escapeQuoted (c : Char) : '\n' ∉ escapeQuoted c := by
  fun_cases escapeQuoted c with
  | case7 _ _ _ hne => simpa using Ne.symm hne
  | case8 => simp [newline_not_mem_toDigits]
  | _ => decide

/-- A quoted text stays on its line, whatever the text holds. -/
theorem newline_not_mem_quoted (t : Text) : '\n' ∉ quoted t := by
  simp [quoted, newline_not_mem_escapeQuoted]

/-- A quoted text between two pieces of one line is one line. -/
theorem newline_not_mem_around {before after : Text} (hb : '\n' ∉ before) (ha : '\n' ∉ after)
    (t : Text) : '\n' ∉ before ++ quoted t ++ after :=
  not_mem_around hb (newline_not_mem_quoted t) ha

/-! ### Plain texts -/

theorem escapeQuoted_of_plain {c : Char} (hfirst : ' ' ≤ c) (hlast : c ≤ '~') (hquote : c ≠ '"')
    (hbackslash : c ≠ '\\') : escapeQuoted c = [c] := by
  have hcontrol : ∀ d : Char, d < ' ' → c ≠ d := by
    rintro d hd rfl
    exact Nat.lt_irrefl _ (Nat.lt_of_lt_of_le hd hfirst)
  rw [escapeQuoted, if_neg (hcontrol _ (by decide)), if_neg (hcontrol _ (by decide)),
    if_neg (hcontrol _ (by decide)), if_neg (hcontrol _ (by decide)), if_neg hquote,
    if_neg hbackslash, if_pos]
  rw [isPrinted, if_pos]
  exact Bool.and_eq_true_iff.2 ⟨decide_eq_true hfirst, decide_eq_true hlast⟩

/-- A text of printed ASCII without quotes and backslashes is shown as it is. -/
theorem quoted_of_plain {t : Text} (h : ∀ c ∈ t, (' ' ≤ c ∧ c ≤ '~') ∧ c ≠ '"' ∧ c ≠ '\\') :
    quoted t = '"' :: t ++ ['"'] := by
  have hplain : t.flatMap escapeQuoted = t := by
    induction t with
    | nil => rfl
    | cons c t ih =>
      rw [List.forall_mem_cons] at h
      obtain ⟨⟨⟨hfirst, hlast⟩, hquote, hbackslash⟩, hrest⟩ := h
      rw [List.flatMap_cons, escapeQuoted_of_plain hfirst hlast hquote hbackslash, ih hrest]
      rfl
  rw [quoted, hplain]
  rfl

end Text

end ThresholdCheck
