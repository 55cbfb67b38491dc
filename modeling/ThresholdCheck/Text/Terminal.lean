import ThresholdCheck.Text.Split

/-!
# Text on a terminal

What remains of a text when terminal control is taken out: control sequences disappear, and of the
control characters only white space stays. White space within a sequence is shown, too. In a text
it ends the sequence; on a stream the sequence goes on after the characters that are shown in
between.

## Main definitions

* `Terminal.Scan` — the kind of sequence that a character stands in
* `Terminal.step` — what one character does
* `Terminal.strip` — what remains of a text
* `Terminal.written` — what remains of a text that goes to a stream

## Main results

* `Terminal.escape_not_mem_strip`, `Terminal.escape_not_mem_written` — no escape character remains
* `Terminal.strip_eq_self` — a text without control characters stays as it is
-/

namespace ThresholdCheck

namespace Terminal

/-- The kind of sequence that a character stands in. -/
inductive Scan where
  /-- No sequence. -/
  | plain
  /-- After an escape character. -/
  | escape
  /-- After an escape character and intermediates. -/
  | intermediate
  /-- In a control sequence, which ends with a letter or another final character. -/
  | control
  /-- In an operating system command, which ends with BEL or another sequence. -/
  | command
  /-- At the start of a device control string. -/
  | device
  /-- After parameters of a device control string. -/
  | deviceParameter
  /-- After intermediates of a device control string. -/
  | deviceIntermediate
  /-- In a control string, which ends with the byte 0x9c or another sequence. -/
  | string
deriving DecidableEq

/-- White space that is kept even though it is a control character. -/
def isLayout (c : Char) : Bool := c = '\t' || c = '\n' || c = '\x0c' || c = '\r'

/-- Whether a character is shown outside of sequences. -/
def isShown (c : Char) : Bool := isLayout c || (' ' ≤ c && c ≠ '\x7f')

/-- Whether the byte 0x9c, which ends control strings, is among the UTF-8 bytes after the first of a
character. Each of these carries six bits of the code point. -/
def endsString (c : Char) : Bool :=
  let n := c.toNat
  n % 64 = 0x1c || (0x800 ≤ n && n / 64 % 64 = 0x1c) || (0x10000 ≤ n && n / 4096 % 64 = 0x1c)

/-- A character outside of ASCII is shown, belongs to the sequence that it stands in, or ends it. -/
def stepWide (scan : Scan) (c : Char) : Scan × Bool :=
  match scan with
  | .plain => (.plain, true)
  | .string => (if endsString c then .plain else .string, false)
  | scan => (scan, false)

/-- An escape sequence after an ASCII character. -/
def stepEscape (c : Char) : Scan :=
  if c < ' ' || c = '\x7f' then .escape
  else if c < '0' then .intermediate
  else if c = '[' then .control
  else if c = ']' then .command
  else if c = 'P' then .device
  else if c = 'X' || c = '^' || c = '_' then .string
  else .plain

/-- The start of a device control string after an ASCII character. -/
def stepDevice (scan : Scan) (c : Char) : Scan :=
  if c < ' ' || c = '\x7f' then scan
  else if '@' ≤ c then .string
  else if c < '0' then .deviceIntermediate
  else if scan = .deviceIntermediate then .string
  else if scan = .deviceParameter && '<' ≤ c then .string
  else .deviceParameter

/-- What one character does: the state after it, and whether it is shown. -/
def step (scan : Scan) (c : Char) : Scan × Bool :=
  if c = '\x1b' then (.escape, false)
  else if c = '\x18' || c = '\x1a' then (.plain, false)
  else if '\x7f' < c then stepWide scan c
  else
    match scan with
    | .plain => (.plain, isShown c)
    | .command => (if c = '\x07' then .plain else .command, false)
    | .string => (.string, false)
    | .escape => if isLayout c then (.escape, true) else (stepEscape c, false)
    | .intermediate =>
      if isLayout c then (.intermediate, true)
      else (if '0' ≤ c && c < '\x7f' then .plain else .intermediate, false)
    | .control =>
      if isLayout c then (.control, true)
      else (if '@' ≤ c && c < '\x7f' then .plain else .control, false)
    | scan => (stepDevice scan c, false)

theorem isShown_of_step {scan next : Scan} {c : Char} (h : step scan c = (next, true)) :
    isShown c := by
  have above : '\x7f' < c → isShown c := by
    intro hc
    have h1 : ' ' ≤ c := Nat.le_trans (by decide) (Nat.le_of_lt hc)
    have h2 : c ≠ '\x7f' := fun he => Nat.lt_irrefl _ (he ▸ hc)
    simp [isShown, h1, h2]
  have layout : isLayout c → isShown c := by
    intro hc
    simp [isShown, hc]
  unfold step at h
  cases scan <;> grind [stepWide]

theorem step_plain {c : Char} (h : isShown c) : step .plain c = (.plain, true) := by
  have hne : ∀ d, isShown d = false → c ≠ d := fun d hd he => by simp [he, hd] at h
  have h1 := hne '\x1b' (by decide)
  have h2 := hne '\x18' (by decide)
  have h3 := hne '\x1a' (by decide)
  simp [step, stepWide, h, h1, h2, h3]

/-! ### In a text -/

/-- The characters that are shown, read from a given state on. After each of them no sequence is
open. -/
def stripFrom : Scan → Text → Text
  | _, [] => []
  | scan, c :: rest =>
    match step scan c with
    | (_, true) => c :: stripFrom .plain rest
    | (next, false) => stripFrom next rest

/-- The text that remains when terminal control is taken out. -/
def strip (t : Text) : Text := stripFrom .plain t

theorem isShown_of_mem_stripFrom {scan : Scan} {t : Text} {c : Char} (h : c ∈ stripFrom scan t) :
    isShown c := by
  fun_induction stripFrom scan t <;> grind [isShown_of_step]

/-- Only characters that are shown remain. -/
theorem isShown_of_mem_strip {t : Text} {c : Char} (h : c ∈ strip t) : isShown c :=
  isShown_of_mem_stripFrom h

/-- No escape character remains. -/
theorem escape_not_mem_strip (t : Text) : '\x1b' ∉ strip t := fun h =>
  absurd (isShown_of_mem_strip h) (by decide)

/-- A text without control characters stays as it is. -/
theorem strip_eq_self {t : Text} (h : ∀ c ∈ t, isShown c) : strip t = t := by
  rw [strip]
  induction t with
  | nil => rfl
  | cons c rest ih =>
    simp [stripFrom, step_plain (h c (by simp)), ih fun d hd => h d (by simp [hd])]

/-! ### On a stream -/

/-- The characters that are shown, read from a given state on. Once one is shown, all are that can
be, up to the next control character, which then meets the sequence that was open. A character
outside of ASCII closes it. -/
def writtenFrom : Bool → Scan → Text → Text
  | _, _, [] => []
  | showing, scan, c :: rest =>
    if showing && isShown c then
      c :: writtenFrom true (if '\x7f' < c then .plain else scan) rest
    else
      match step scan c with
      | (next, true) => c :: writtenFrom true next rest
      | (next, false) => writtenFrom false next rest

/-- What a text leaves on a stream when terminal control is taken out. -/
def written (t : Text) : Text := writtenFrom false .plain t

theorem isShown_of_mem_writtenFrom {showing : Bool} {scan : Scan} {t : Text} {c : Char}
    (h : c ∈ writtenFrom showing scan t) : isShown c := by
  fun_induction writtenFrom showing scan t <;> grind [isShown_of_step]

/-- Only characters that are shown remain. -/
theorem isShown_of_mem_written {t : Text} {c : Char} (h : c ∈ written t) : isShown c :=
  isShown_of_mem_writtenFrom h

/-- No escape character remains. -/
theorem escape_not_mem_written (t : Text) : '\x1b' ∉ written t := fun h =>
  absurd (isShown_of_mem_written h) (by decide)

end Terminal

end ThresholdCheck
