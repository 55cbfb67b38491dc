import ThresholdCheck.Text.CodePoints

/-!
# Flags of a regular expression

Flags are letters: those before a hyphen are switched on, those after it off. Three of them decide
on whether an expression can be read and used; the others are read and left alone.

## Main definitions

* `Pattern.Flags` — the flags that hold at a place
* `Pattern.Flags.read?` — the flags of a list of letters
* `Pattern.Flags.skip` — white space and comments left out where the flags ask for it
* `Pattern.Flags.span` — a run of characters with white space among them

## Main results

* `Pattern.Flags.length_skip_le` — nothing is added
-/

namespace ThresholdCheck

namespace Pattern

/-- The flags that hold at a place of an expression. -/
structure Flags where
  /-- Letters match in either case. -/
  caseless : Bool
  /-- Characters of all scripts are matched, not bytes. -/
  wide : Bool
  /-- White space and comments do not count. -/
  spaced : Bool
deriving DecidableEq

namespace Flags

/-- The flags at the start of an expression. -/
def initial : Flags := ⟨false, true, false⟩

/-! ### Reading -/

/-- The letters of all flags. -/
def letters : Text := "imsURux".toList

/-- The state of a flag after a list of letters, given its state before. -/
def switched (list : Text) (letter : Char) (before : Bool) : Bool :=
  if (list.takeWhile (· ≠ '-')).contains letter then true
  else if list.contains letter then false
  else before

/-- Whether a text is a list of flags: each letter and the hyphen at most once, and the hyphen not
last. -/
def isList (list : Text) : Bool :=
  (list.all fun c => c = '-' || letters.contains c) &&
    list.eraseDups.length = list.length && list.getLast? ≠ some '-'

/-- The flags after a list of letters. -/
def read? (flags : Flags) (list : Text) : Option Flags :=
  if isList list then
    some ⟨switched list 'i' flags.caseless, switched list 'u' flags.wide,
      switched list 'x' flags.spaced⟩
  else none

/-! ### White space -/

/-- What remains after white space and comments, which go from a number sign to the end of the
line. -/
def dropSpace : Bool → Text → Text
  | _, [] => []
  | true, c :: rest => dropSpace (c ≠ '\n') rest
  | false, c :: rest =>
    if Text.isBlank c then dropSpace false rest
    else if c = '#' then dropSpace true rest
    else c :: rest

theorem length_dropSpace_le (inComment : Bool) (t : Text) :
    (dropSpace inComment t).length ≤ t.length := by
  fun_induction dropSpace inComment t <;> grind

/-- What remains after white space and comments, if the flags ask for it. -/
def skip (flags : Flags) (t : Text) : Text := if flags.spaced then dropSpace false t else t

theorem length_skip_le (flags : Flags) (t : Text) : (flags.skip t).length ≤ t.length := by
  rw [skip]
  split
  · exact length_dropSpace_le false t
  · exact Nat.le_refl _

/-- The run of characters that have a property, with white space left out after each, and what
follows. -/
def span (flags : Flags) (p : Char → Bool) : Text → Text × Text
  | [] => ([], [])
  | c :: rest =>
    if p c then
      have := length_skip_le flags rest
      let (run, after) := span flags p (flags.skip rest)
      (c :: run, after)
    else ([], c :: rest)
termination_by t => t.length
decreasing_by simp; omega

end Flags

end Pattern

end ThresholdCheck
