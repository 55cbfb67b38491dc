import ThresholdCheck.Proofs.Json.Strings
import ThresholdCheck.Proofs.Range.Accepted

/-!
# The alphabet of definitions

Nobody looks at the characters of a definition. Its bounds are read as numbers, though, and what is
between them is a colon; so whatever stands in an accepted definition stands in a number, or is a
tilde, a colon, or the at sign in front. These characters are all printed, and none of them means
anything on a status line or in a JSON string.

A metric is under no such rule: it may hold anything but a comma and a semicolon, and in a record
even these. What follows is about definitions alone.

## Main definitions

* `Text.isInert` — the alphabet
* `Text.Inert` — texts of the alphabet with an at sign in front at most

## Main results

* `Text.lt_of_isInert`, `Text.isInert_eq_false` — characters that are not in it
* `Zone.inert_of_read`, `AlertRange.Accepted.inert` — definitions that are read are inert
* `Json.quoted_of_inert` — inert texts need no escapes
-/

namespace ThresholdCheck

/-! ### Inert texts -/

namespace Text

/-- ASCII letters and digits, signs, points, tildes, colons and at signs. -/
def isInert (c : Char) : Bool := c.isAlpha || c.isDigit || "+-.~:@".toList.contains c

/-- The text consists of these characters, and an at sign can only come first. -/
structure Inert (t : Text) : Prop where
  isInert_of_mem : ∀ c ∈ t, isInert c = true
  at_not_mem_tail : '@' ∉ t.tail

/-- The characters that mean something on a status line or in a JSON string. -/
def separators : List Char := [' ', '\'', '"', ';', '=', '|', '\\', '\n']

/-- The alphabet lies between the blank and the delete character, so that it has no control
characters, no blanks, and nothing outside of ASCII. -/
theorem lt_of_isInert {c : Char} (h : isInert c = true) : 0x20 < c.toNat ∧ c.toNat < 0x7f := by
  simp only [isInert, Bool.or_eq_true, List.contains_iff_mem] at h
  rcases h with (h | h) | h
  · simp only [Char.isAlpha, Char.isUpper, Char.isLower, Bool.or_eq_true, Bool.and_eq_true,
      decide_eq_true_eq, UInt32.le_iff_toNat_le, ge_iff_le] at h
    change (65 ≤ c.toNat ∧ c.toNat ≤ 90) ∨ (97 ≤ c.toNat ∧ c.toNat ≤ 122) at h
    omega
  · simp only [Char.isDigit, Bool.and_eq_true, decide_eq_true_eq, UInt32.le_iff_toNat_le,
      ge_iff_le] at h
    change 48 ≤ c.toNat ∧ c.toNat ≤ 57 at h
    omega
  · have hsigns : "+-.~:@".toList.all fun d => 0x20 < d.toNat ∧ d.toNat < 0x7f := by decide
    simpa using List.all_eq_true.1 hsigns c h

/-- Separators and control characters are not in the alphabet. -/
theorem isInert_eq_false {c : Char} (h : c ∈ separators ∨ c.toNat < 0x20 ∨ 0x7f ≤ c.toNat) :
    isInert c = false := by
  rcases h with h | h
  · have hseparators : separators.all fun d => !isInert d := by decide
    simpa using List.all_eq_true.1 hseparators c h
  · refine Bool.eq_false_iff.2 fun hinert => ?_
    have := lt_of_isInert hinert
    omega

theorem isInert_of_isMark {c : Char} (h : Numeral.isMark c = true) : isInert c = true := by
  simp only [Numeral.isMark, Char.isAlphanum, Bool.or_eq_true, decide_eq_true_eq] at h
  rcases h with (((h | h) | rfl) | rfl) | rfl
  · simp [isInert, h]
  · simp [isInert, h]
  · decide
  · decide
  · decide

end Text

/-! ### Definitions -/

/-- Bounds are of the alphabet, and hold no at sign. -/
theorem Spans.isInert_of_mem {form : BoundsForm} {t : Text} {lower upper : Binary64} {c : Char}
    (h : Spans form t lower upper) (hc : c ∈ t) : Text.isInert c = true := by
  rcases h.isMark_or_of_mem hc with hmark | rfl | rfl
  · exact Text.isInert_of_isMark hmark
  · decide
  · decide

/-- A definition that is read is inert. -/
theorem Zone.inert_of_read {definition : Text} {zone : Zone}
    (h : Zone.read definition = .ok zone) : definition.Inert := by
  obtain ⟨bounds, form, hsided, hspans, -⟩ := Zone.read_eq_ok_iff.1 h
  generalize zone.sense = sense at hsided
  cases hsided with
  | outside =>
    exact ⟨fun _ => hspans.isInert_of_mem, fun hat => hspans.at_not_mem (List.mem_of_mem_tail hat)⟩
  | inside =>
    exact ⟨List.forall_mem_cons.2 ⟨by decide, fun _ => hspans.isInert_of_mem⟩, hspans.at_not_mem⟩

/-- The definition of an accepted range is inert, whichever way the range came in. -/
theorem AlertRange.Accepted.inert {range : AlertRange} (h : range.Accepted) :
    range.definition.Inert :=
  Zone.inert_of_read h.zone_read

/-! ### JSON -/

/-- An inert text is written as it is. -/
theorem Json.quoted_of_inert {t : Text} (h : t.Inert) :
    Json.quoted t = '"' :: (t ++ ['"']) := by
  have hplain : ∀ c ∈ t, Json.escape c = [c] := by
    intro c hc
    have hinert := h.isInert_of_mem c hc
    have hne : ∀ d, Text.isInert d = false → c ≠ d := by
      rintro d hd rfl
      exact absurd hinert (by simp [hd])
    have hprinted := Text.lt_of_isInert hinert
    rw [Json.escape, if_neg (hne _ (by decide)), if_neg (hne _ (by decide)),
      if_neg (hne _ (by decide)), if_neg (hne _ (by decide)), if_neg (hne _ (by decide)),
      if_neg (hne _ (by decide)), if_neg (hne _ (by decide)), if_neg (by omega)]
  have hflat : t.flatMap Json.escape = t := by
    clear h
    induction t with
    | nil => rfl
    | cons c t ih =>
      rw [List.forall_mem_cons] at hplain
      rw [List.flatMap_cons, hplain.1, ih hplain.2]
      rfl
  rw [Json.quoted, hflat]

end ThresholdCheck
