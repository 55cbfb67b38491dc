import ThresholdCheck.Json.Number

/-!
# Values that are passed over

Values of fields that nobody asked for are checked only as far as their extent requires: half a
surrogate pair and numbers of any size will do.

## Main definitions

* `Json.Bracket` — the two kinds of brackets
* `Json.skipValue` — the text after a value

## Main results

* `length_le_of_skipValue` — what is left is no longer than the text
-/

namespace ThresholdCheck

namespace Json

/-- The kinds of brackets. -/
inductive Bracket where
  | list
  | object
deriving DecidableEq

namespace Bracket

/-- The closing bracket. -/
def close : Bracket → Char
  | list => ']'
  | object => '}'

/-- The text ends inside the brackets. -/
def eofCause : Bracket → Cause
  | list => .eofInList
  | object => .eofInObject

/-- Neither a comma nor the closing bracket follows a value. -/
def endCause : Bracket → Cause
  | list => .expectedListEnd
  | object => .expectedObjectEnd

end Bracket

/-- The text after a colon. -/
def readColon (s : Text) : Except Fault Text :=
  match skipBlanks s with
  | [] => .error (.next .eofInObject [])
  | c :: rest => if c = ':' then .ok rest else .error (.next .expectedColon (c :: rest))

/-- The text at the value of the next entry: in an object, after a name and a colon. -/
def skipToValue (bracket : Bracket) (s : Text) : Except Fault Text :=
  match bracket with
  | .list => .ok s
  | .object =>
    match skipBlanks s with
    | [] => .error (.next .eofInObject [])
    | c :: rest =>
      if c = '"' then do
        let rest ← skipString rest
        readColon rest
      else .error (.next .keyNotString (c :: rest))

/-- The text after a value without brackets. -/
def skipScalar (c : Char) (rest : Text) : Except Fault Text :=
  if c = 'n' then readWord "ull".toList rest
  else if c = 't' then readWord "rue".toList rest
  else if c = 'f' then readWord "alse".toList rest
  else if c = '-' then skipNumber rest
  else if c.isDigit then skipNumber (c :: rest)
  else if c = '"' then skipString rest
  else .error (.next .expectedValue (c :: rest))

/-! ### Lengths -/

theorem length_le_of_readColon {s rest : Text} (h : readColon s = .ok rest) :
    rest.length ≤ s.length := by
  have := length_skipBlanks_le s
  rw [readColon] at h
  split at h
  · simp at h
  · rename_i c r heq
    split at h
    · simp only [Except.ok.injEq] at h
      rw [heq] at this
      simp at this
      rw [← h]
      omega
    · simp at h

theorem length_le_of_skipToValue {bracket : Bracket} {s rest : Text}
    (h : skipToValue bracket s = .ok rest) : rest.length ≤ s.length := by
  cases bracket with
  | list =>
    simp only [skipToValue, Except.ok.injEq] at h
    simp [h]
  | object =>
    have := length_skipBlanks_le s
    simp only [skipToValue] at h
    split at h
    · simp at h
    · rename_i c r heq
      rw [heq] at this
      simp at this
      split at h
      · cases hs : skipString r with
        | error e => simp [hs, bind, Except.bind] at h
        | ok after =>
          simp only [hs, bind, Except.bind] at h
          have h1 := length_le_of_skipString hs
          have h2 := length_le_of_readColon h
          omega
      · simp at h

theorem length_le_of_skipScalar {c : Char} {s rest : Text} (h : skipScalar c s = .ok rest) :
    rest.length ≤ s.length := by
  rw [skipScalar] at h
  split at h
  · exact length_le_of_readWord h
  · split at h
    · exact length_le_of_readWord h
    · split at h
      · exact length_le_of_readWord h
      · split at h
        · exact Nat.le_of_lt (length_lt_of_skipNumber h)
        · split at h
          · have := length_lt_of_skipNumber h
            simp at this
            omega
          · split at h
            · exact Nat.le_of_lt (length_le_of_skipString h)
            · simp at h

/-! ### Whole values -/

mutual

/-- The text after a value that stands in the given brackets, once these are closed. -/
def skipIn (outer : List Bracket) (s : Text) : Except Fault Text :=
  match h : skipBlanks s with
  | [] => .error (.next .eofInValue [])
  | c :: rest =>
    have : rest.length + 1 ≤ s.length := by
      have := length_skipBlanks_le s
      rwa [h] at this
    if c = '[' then skipRest false (.list :: outer) rest
    else if c = '{' then skipRest false (.object :: outer) rest
    else
      match hs : skipScalar c rest with
      | .error fault => .error fault
      | .ok after =>
        have := length_le_of_skipScalar hs
        skipRest true outer after
termination_by (s.length, 0)

/-- What follows a value, or an opening bracket if no comma can stand here. -/
def skipRest (afterValue : Bool) (outer : List Bracket) (s : Text) : Except Fault Text :=
  match outer with
  | [] => .ok s
  | bracket :: outer =>
    match h : skipBlanks s with
    | [] => .error (.next bracket.eofCause [])
    | c :: rest =>
      have : rest.length + 1 ≤ s.length := by
        have := length_skipBlanks_le s
        rwa [h] at this
      if c = bracket.close then skipRest true outer rest
      else if afterValue then
        if c = ',' then
          match hv : skipToValue bracket rest with
          | .error fault => .error fault
          | .ok value =>
            have := length_le_of_skipToValue hv
            skipIn (bracket :: outer) value
        else .error (.next bracket.endCause (c :: rest))
      else
        match hv : skipToValue bracket (c :: rest) with
        | .error fault => .error fault
        | .ok value =>
          have := length_le_of_skipToValue hv
          skipIn (bracket :: outer) value
termination_by (s.length, 1)
decreasing_by
  all_goals simp_all [Prod.lex_def]
  all_goals omega

end

/-- The text after a value. -/
def skipValue (s : Text) : Except Fault Text := skipIn [] s

/-- Neither a value nor what follows one grows the text. -/
theorem length_le_of_skip (n : Nat) (s : Text) (hn : s.length = n) :
    (∀ outer rest, skipIn outer s = .ok rest → rest.length ≤ s.length) ∧
      ∀ afterValue outer rest,
        skipRest afterValue outer s = .ok rest → rest.length ≤ s.length := by
  induction n using Nat.strongRecOn generalizing s with
  | _ n ih =>
    have first : ∀ t : Text, t.length ≤ n → ∀ outer rest,
        skipIn outer t = .ok rest → rest.length ≤ t.length := by
      intro t ht outer rest h
      have hs := length_skipBlanks_le t
      rw [skipIn] at h
      split at h
      · cases h
      · rename_i c r heq
        rw [heq, List.length_cons] at hs
        have tail : ∀ u : Text, u.length ≤ r.length → ∀ b o,
            skipRest b o u = .ok rest → rest.length ≤ u.length :=
          fun u hu b o => (ih u.length (by omega) u rfl).2 b o rest
        simp only at h
        split at h
        · have := tail r (Nat.le_refl _) _ _ h
          omega
        · split at h
          · have := tail r (Nat.le_refl _) _ _ h
            omega
          · split at h
            · cases h
            · rename_i after ha
              have h1 := length_le_of_skipScalar ha
              have h2 := tail after h1 _ _ h
              omega
    refine ⟨first s (by omega), fun afterValue outer rest h => ?_⟩
    have hs := length_skipBlanks_le s
    cases outer with
    | nil =>
      simp only [skipRest, Except.ok.injEq] at h
      simp [h]
    | cons bracket outer =>
      rw [skipRest] at h
      split at h
      · cases h
      · rename_i c r heq
        rw [heq, List.length_cons] at hs
        simp only at h
        split at h
        · have := (ih r.length (by omega) r rfl).2 _ _ rest h
          omega
        · split at h
          · split at h
            · split at h
              · cases h
              · rename_i t hv
                have h1 := length_le_of_skipToValue hv
                have h2 := first t (by omega) _ rest h
                omega
            · cases h
          · split at h
            · cases h
            · rename_i t hv
              have h1 := length_le_of_skipToValue hv
              rw [List.length_cons] at h1
              have h2 := first t (by omega) _ rest h
              omega

theorem length_le_of_skipValue {s rest : Text} (h : skipValue s = .ok rest) :
    rest.length ≤ s.length :=
  (length_le_of_skip s.length s rfl).1 [] rest h

end Json

end ThresholdCheck
