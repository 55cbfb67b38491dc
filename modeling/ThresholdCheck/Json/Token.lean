import ThresholdCheck.Json.Fault

/-!
# Words and strings of a JSON text

A reader takes the text that is left and gives back what it read with the text after it, or a
fault. What it leaves is never longer than what it was given.

## Main definitions

* `Json.skipBlanks` — the text after blanks
* `Json.readWord` — the rest of `null`, `true` or `false`
* `Json.readString` — a string after its opening quote
* `Json.skipString` — the same without its characters

## Main results

* `length_le_of_readString`, `length_le_of_readWord` — what is left is no longer than the text
-/

namespace ThresholdCheck

namespace Json

/-- Blanks between the parts of a JSON text. -/
def isBlank (c : Char) : Bool := c = ' ' || c = '\n' || c = '\t' || c = '\r'

/-- The text after blanks. -/
def skipBlanks (s : Text) : Text := s.dropWhile isBlank

theorem length_skipBlanks_le (s : Text) : (skipBlanks s).length ≤ s.length :=
  (List.dropWhile_suffix _).sublist.length_le

/-- The text after a word that is known to start here. -/
def readWord : Text → Text → Except Fault Text
  | [], s => .ok s
  | _ :: _, [] => .error (.here .eofInValue [])
  | expected :: word, c :: rest =>
    if c = expected then readWord word rest else .error (.next .expectedIdent (c :: rest))

theorem readWord_append (word s : Text) : readWord word (word ++ s) = .ok s := by
  induction word with
  | nil => rfl
  | cons c word ih => simp [readWord, ih]

theorem length_le_of_readWord {word s rest : Text} (h : readWord word s = .ok rest) :
    rest.length ≤ s.length := by
  induction word generalizing s with
  | nil =>
    simp only [readWord, Except.ok.injEq] at h
    simp [h]
  | cons c word ih =>
    cases s with
    | nil => simp [readWord] at h
    | cons d s =>
      rw [readWord] at h
      split at h
      · exact Nat.le_trans (ih h) (by simp)
      · simp at h

/-! ### Escapes -/

/-- The value of a hexadecimal digit. -/
def hexDigit? (c : Char) : Option Nat :=
  if c.isDigit then some (c.toNat - '0'.toNat)
  else if 'a' ≤ c ∧ c ≤ 'f' then some (c.toNat - 'a'.toNat + 10)
  else if 'A' ≤ c ∧ c ≤ 'F' then some (c.toNat - 'A'.toNat + 10)
  else none

/-- The value of four hexadecimal digits. -/
def hexDigits4? (a b c d : Char) : Option Nat := do
  let a ← hexDigit? a
  let b ← hexDigit? b
  let c ← hexDigit? c
  let d ← hexDigit? d
  return ((a * 16 + b) * 16 + c) * 16 + d

/-- Four hexadecimal digits. Four bytes are taken before they are looked at. -/
def readHex4 (s : Text) : Except Fault (Nat × Text) :=
  match s with
  | a :: b :: c :: d :: rest =>
    match hexDigits4? a b c d with
    | some n => .ok (n, rest)
    | none => .error ⟨.invalidEscape, s, 4⟩
  | _ => if Utf8.size s < 4 then .error (.here .eofInString []) else .error ⟨.invalidEscape, s, 4⟩

/-- First half of a surrogate pair. -/
def isLeading (n : Nat) : Bool := 0xd800 ≤ n && n ≤ 0xdbff

/-- Second half of a surrogate pair. -/
def isTrailing (n : Nat) : Bool := 0xdc00 ≤ n && n ≤ 0xdfff

/-- The character of a hexadecimal escape, after its `u`. Characters beyond four digits are written
as a surrogate pair; half a pair is refused. -/
def readUnicodeEscape (s : Text) : Except Fault (Char × Text) := do
  let (first, rest) ← readHex4 s
  if isTrailing first then .error (.here .loneSurrogate rest)
  else if isLeading first then
    match rest with
    | [] => .error (.here .eofInString [])
    | '\\' :: [] => .error (.here .eofInString [])
    | '\\' :: 'u' :: rest =>
      let (second, rest) ← readHex4 rest
      if isTrailing second then
        return (Char.ofNat ((first - 0xd800) * 1024 + (second - 0xdc00) + 0x10000), rest)
      else .error (.here .loneSurrogate rest)
    | '\\' :: rest => .error (.next .surrogateEnd rest)
    | rest => .error (.next .surrogateEnd rest)
  else return (Char.ofNat first, rest)

/-- The character that a short escape stands for. -/
def shortEscape? (c : Char) : Option Char :=
  match c with
  | '"' => some '"'
  | '\\' => some '\\'
  | '/' => some '/'
  | 'b' => some '\x08'
  | 'f' => some '\x0c'
  | 'n' => some '\n'
  | 'r' => some '\r'
  | 't' => some '\t'
  | _ => none

/-- The character of an escape, after its backslash. -/
def readEscape : Text → Except Fault (Char × Text)
  | [] => .error (.here .eofInString [])
  | c :: rest =>
    if c = 'u' then readUnicodeEscape rest
    else
      match shortEscape? c with
      | some e => .ok (e, rest)
      | none => .error (.next .invalidEscape (c :: rest))

theorem length_le_of_readHex4 {s rest : Text} {n : Nat} (h : readHex4 s = .ok (n, rest)) :
    rest.length ≤ s.length := by
  unfold readHex4 at h
  split at h
  · split at h
    · simp only [Except.ok.injEq, Prod.mk.injEq] at h
      simp [← h.2]
      omega
    · simp at h
  · split at h <;> simp at h

theorem length_le_of_readUnicodeEscape {s rest : Text} {c : Char}
    (h : readUnicodeEscape s = .ok (c, rest)) : rest.length ≤ s.length := by
  rw [readUnicodeEscape] at h
  simp only [bind, Except.bind, pure, Except.pure] at h
  split at h
  · simp at h
  · rename_i first heq
    have hle := length_le_of_readHex4 heq
    split at h
    · simp at h
    · split at h
      · split at h
        · simp at h
        · simp at h
        · rename_i r hr
          split at h
          · simp at h
          · rename_i second heq2
            have hle2 := length_le_of_readHex4 heq2
            split at h
            · simp only [Except.ok.injEq, Prod.mk.injEq] at h
              rw [hr] at hle
              simp at hle
              rw [← h.2]
              omega
            · simp at h
        · simp at h
        · simp at h
      · simp only [Except.ok.injEq, Prod.mk.injEq] at h
        rw [← h.2]
        exact hle

theorem length_lt_of_readEscape {s rest : Text} {c : Char} (h : readEscape s = .ok (c, rest)) :
    rest.length < s.length := by
  cases s with
  | nil => simp [readEscape] at h
  | cons d s =>
    rw [readEscape] at h
    split at h
    · have := length_le_of_readUnicodeEscape h
      simp
      omega
    · split at h
      · simp only [Except.ok.injEq, Prod.mk.injEq] at h
        simp [← h.2]
      · simp at h

/-! ### Strings -/

/-- The characters of a string after its opening quote, and the text after its closing one. -/
def readString (s : Text) : Except Fault (Text × Text) :=
  match s with
  | [] => .error (.here .eofInString [])
  | c :: rest =>
    if c = '"' then .ok ([], rest)
    else if c = '\\' then
      match h : readEscape rest with
      | .error fault => .error fault
      | .ok (e, after) =>
        have := length_lt_of_readEscape h
        match readString after with
        | .error fault => .error fault
        | .ok (t, last) => .ok (e :: t, last)
    else if c.toNat < 0x20 then .error (.next .controlCharacter (c :: rest))
    else
      match readString rest with
      | .error fault => .error fault
      | .ok (t, last) => .ok (c :: t, last)
termination_by s.length
decreasing_by
  · simp
    omega
  · simp

/-- The text after an escape whose character does not matter: half a surrogate pair will do. -/
def skipEscape : Text → Except Fault Text
  | [] => .error (.here .eofInString [])
  | c :: rest =>
    if c = 'u' then (readHex4 rest).map Prod.snd
    else if (shortEscape? c).isSome then .ok rest
    else .error (.next .invalidEscape (c :: rest))

theorem length_lt_of_skipEscape {s rest : Text} (h : skipEscape s = .ok rest) :
    rest.length < s.length := by
  cases s with
  | nil => simp [skipEscape] at h
  | cons d s =>
    rw [skipEscape] at h
    split at h
    · cases hr : readHex4 s with
      | error e => simp [hr, Except.map] at h
      | ok p =>
        obtain ⟨n, r⟩ := p
        simp only [hr, Except.map, Except.ok.injEq] at h
        have := length_le_of_readHex4 hr
        simp [← h]
        omega
    · split at h
      · simp only [Except.ok.injEq] at h
        simp [h]
      · simp at h

/-- The text after a string whose characters do not matter. -/
def skipString (s : Text) : Except Fault Text :=
  match s with
  | [] => .error (.here .eofInString [])
  | c :: rest =>
    if c = '"' then .ok rest
    else if c = '\\' then
      match h : skipEscape rest with
      | .error fault => .error fault
      | .ok after =>
        have := length_lt_of_skipEscape h
        skipString after
    else if c.toNat < 0x20 then .error (.here .controlCharacter (c :: rest))
    else skipString rest
termination_by s.length
decreasing_by
  · simp
    omega
  · simp

theorem length_le_of_readString {s rest t : Text} (h : readString s = .ok (t, rest)) :
    rest.length < s.length := by
  fun_induction readString s generalizing t <;> grind

theorem length_le_of_skipString {s rest : Text} (h : skipString s = .ok rest) :
    rest.length < s.length := by
  fun_induction skipString s <;> grind

end Json

end ThresholdCheck
