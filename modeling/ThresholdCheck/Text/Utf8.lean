import ThresholdCheck.Text.Split

/-!
# UTF-8

The bytes of a text, and the text of bytes that need not be well formed.

## Main definitions

* `Utf8.size` — how many bytes a text takes
* `Utf8.slice?` — the characters from one byte to another
* `Utf8.step` — the character at the head of some bytes, or the malformed bytes to leave out
* `Utf8.decode` — the longest well-formed start, and the bytes after it
* `Utf8.decodeLossy` — a text in which U+FFFD stands for every malformed sequence

## Main results

* `Utf8.length_step_le` — a step goes forward
-/

namespace ThresholdCheck

namespace Utf8

/-- The number of bytes of a text. -/
def size : Text → Nat
  | [] => 0
  | c :: t => c.utf8Size + size t

/-! ### Slices -/

/-- What remains of a text after some bytes, unless they end within a character. -/
def dropBytes? : Nat → Text → Option Text
  | 0, t => some t
  | _ + 1, [] => none
  | n + 1, c :: t => if c.utf8Size ≤ n + 1 then dropBytes? (n + 1 - c.utf8Size) t else none

/-- The first bytes of a text, unless they end within a character. -/
def takeBytes? : Nat → Text → Option Text
  | 0, _ => some []
  | _ + 1, [] => none
  | n + 1, c :: t =>
    if c.utf8Size ≤ n + 1 then (takeBytes? (n + 1 - c.utf8Size) t).map (c :: ·) else none

/-- The characters of a text from one byte to another, unless one of them is within a character. -/
def slice? (first last : Nat) (t : Text) : Option Text :=
  (dropBytes? first t).bind (takeBytes? (last - first))

/-! ### One character -/

/-- The six low bits that a continuation byte carries, if it lies within the given bounds. -/
def continuation? (low high : Nat) (b : UInt8) : Option Nat :=
  if low ≤ b.toNat && b.toNat ≤ high then some (b.toNat - 0x80) else none

/-- Least and greatest second byte after the lead byte of a sequence of three or four. -/
def secondBounds (lead : Nat) : Nat × Nat :=
  if lead = 0xe0 then (0xa0, 0xbf)
  else if lead = 0xed then (0x80, 0x9f)
  else if lead = 0xf0 then (0x90, 0xbf)
  else if lead = 0xf4 then (0x80, 0x8f)
  else (0x80, 0xbf)

/-- Read `count` more continuation bytes onto `acc`. A byte that continues nothing is left in
place. -/
def continued (acc : Nat) : Nat → List UInt8 → Option Char × List UInt8
  | 0, bytes => (some (Char.ofNat acc), bytes)
  | _ + 1, [] => (none, [])
  | count + 1, b :: bytes =>
    match continuation? 0x80 0xbf b with
    | some bits => continued (acc * 64 + bits) count bytes
    | none => (none, b :: bytes)

/-- As `continued`, where the first continuation byte has bounds of its own. -/
def continuedWithin (bounds : Nat × Nat) (acc count : Nat) : List UInt8 → Option Char × List UInt8
  | [] => (none, [])
  | b :: bytes =>
    match continuation? bounds.1 bounds.2 b with
    | some bits => continued (acc * 64 + bits) count bytes
    | none => (none, b :: bytes)

/-- The character that starts with byte `b`, or `none` for a malformed sequence, and the bytes
after it. A malformed sequence is as long as it could still have become a character. -/
def step (b : UInt8) (bytes : List UInt8) : Option Char × List UInt8 :=
  let lead := b.toNat
  if lead < 0x80 then (some (Char.ofNat lead), bytes)
  else if 0xc2 ≤ lead && lead ≤ 0xdf then continued (lead - 0xc0) 1 bytes
  else if 0xe0 ≤ lead && lead ≤ 0xef then
    continuedWithin (secondBounds lead) (lead - 0xe0) 1 bytes
  else if 0xf0 ≤ lead && lead ≤ 0xf4 then
    continuedWithin (secondBounds lead) (lead - 0xf0) 2 bytes
  else (none, bytes)

theorem length_continued_le (acc count : Nat) (bytes : List UInt8) :
    (continued acc count bytes).2.length ≤ bytes.length := by
  fun_induction continued acc count bytes <;> grind

theorem length_continuedWithin_le (bounds : Nat × Nat) (acc count : Nat) (bytes : List UInt8) :
    (continuedWithin bounds acc count bytes).2.length ≤ bytes.length := by
  unfold continuedWithin
  split
  · simp
  · split
    · exact Nat.le_trans (length_continued_le ..) (by simp)
    · simp

theorem length_step_le (b : UInt8) (bytes : List UInt8) :
    (step b bytes).2.length ≤ bytes.length := by
  unfold step
  simp only
  repeat' split
  · exact Nat.le_refl _
  · exact length_continued_le ..
  · exact length_continuedWithin_le ..
  · exact length_continuedWithin_le ..
  · exact Nat.le_refl _

/-! ### Whole byte strings -/

/-- The text of the longest well-formed start of some bytes, and the bytes that remain. -/
def decode : List UInt8 → Text × List UInt8
  | [] => ([], [])
  | b :: bytes =>
    match h : step b bytes with
    | (some c, rest) =>
      have : rest.length ≤ bytes.length := by
        have := length_step_le b bytes
        rwa [h] at this
      let (t, tail) := decode rest
      (c :: t, tail)
    | (none, _) => ([], b :: bytes)
termination_by bytes => bytes.length
decreasing_by simp; omega

/-- The text of some bytes, with U+FFFD in place of every malformed sequence. -/
def decodeLossy : List UInt8 → Text
  | [] => []
  | b :: bytes =>
    have := length_step_le b bytes
    ((step b bytes).1.getD '\ufffd') :: decodeLossy (step b bytes).2
termination_by bytes => bytes.length
decreasing_by simp; omega

end Utf8

end ThresholdCheck
