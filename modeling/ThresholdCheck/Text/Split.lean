/-!
# Text and its pieces

A text is the list of its characters. Cutting a text at a separator gives the pieces between the
separators, empty ones included; `segments` keeps the pieces that are not empty.

## Main definitions

* `Text` — a list of characters
* `Text.splitOn` — the pieces between the separators
* `Text.segments` — the pieces that are not empty
* `Text.lines` — the pieces between line ends
* `Text.cutFirst`, `Text.cutLast` — the two sides of the first and of the last separator
* `Text.joinWith` — pieces put together with a text between neighbours

## Main results

* `Text.cutFirst_eq_some_iff`, `Text.cutLast_eq_some_iff` — the two sides, and which one is free of
  the separator
-/

namespace ThresholdCheck

/-- A text is the list of its characters. -/
abbrev Text := List Char

namespace Text

theorem not_mem_around {c : Char} {before t after : Text} (hbefore : c ∉ before) (ht : c ∉ t)
    (hafter : c ∉ after) : c ∉ before ++ t ++ after :=
  List.not_mem_append (List.not_mem_append hbefore ht) hafter

/-! ### Cutting at every separator -/

/-- The pieces of a text between the separators: one more than there are separators. -/
def splitOn (sep : Char) : Text → List Text
  | [] => [[]]
  | c :: rest =>
    if c = sep then [] :: splitOn sep rest
    else
      match splitOn sep rest with
      | [] => [[c]]
      | piece :: pieces => (c :: piece) :: pieces

theorem splitOn_ne_nil (sep : Char) (t : Text) : splitOn sep t ≠ [] := by
  cases t with
  | nil => simp [splitOn]
  | cons c rest =>
    rw [splitOn]
    split
    · simp
    · split <;> simp

/-- A text without the separator is its only piece. -/
theorem splitOn_of_not_mem {sep : Char} {t : Text} (h : sep ∉ t) : splitOn sep t = [t] := by
  induction t with
  | nil => rfl
  | cons c rest ih =>
    simp only [List.mem_cons, not_or] at h
    simp [splitOn, ih h.2, Ne.symm h.1]

/-- No piece holds the separator. -/
theorem not_mem_of_mem_splitOn {sep : Char} {t piece : Text} (h : piece ∈ splitOn sep t) :
    sep ∉ piece := by
  induction t generalizing piece with
  | nil => simp [splitOn] at h; simp [h]
  | cons c rest ih =>
    rw [splitOn] at h
    split at h
    · rcases List.mem_cons.1 h with rfl | h
      · simp
      · exact ih h
    · rename_i hc
      split at h
      · simp at h
        simp [h, Ne.symm hc]
      · rename_i first others heq
        rcases List.mem_cons.1 h with rfl | h
        · have : sep ∉ first := ih (by simp [heq])
          simp [Ne.symm hc, this]
        · exact ih (by simp [heq, h])

/-- The pieces that are not empty, in order. -/
def segments (sep : Char) (t : Text) : List Text :=
  (splitOn sep t).filter fun piece => !piece.isEmpty

theorem ne_nil_of_mem_segments {sep : Char} {t piece : Text} (h : piece ∈ segments sep t) :
    piece ≠ [] := by
  simp [segments] at h
  exact h.2

theorem not_mem_of_mem_segments {sep : Char} {t piece : Text} (h : piece ∈ segments sep t) :
    sep ∉ piece := by
  simp [segments] at h
  exact not_mem_of_mem_splitOn h.1

/-- A line without the carriage return that ends it, if there is one. -/
def dropReturn (line : Text) : Text :=
  if line.getLast? = some '\r' then line.dropLast else line

theorem dropReturn_sublist (line : Text) : (dropReturn line).Sublist line := by
  rw [dropReturn]
  split
  · exact List.dropLast_sublist line
  · exact List.Sublist.refl line

/-- The lines of a text: a newline ends each, and a carriage return before it belongs to it. -/
def lines (t : Text) : List Text := (splitOn '\n' t).map dropReturn

/-! ### Cutting once -/

/-- What stands before and after the first separator, if there is one. -/
def cutFirst (sep : Char) : Text → Option (Text × Text)
  | [] => none
  | c :: rest =>
    if c = sep then some ([], rest)
    else (cutFirst sep rest).map fun (before, after) => (c :: before, after)

/-- What stands before and after the last separator, if there is one. -/
def cutLast (sep : Char) : Text → Option (Text × Text)
  | [] => none
  | c :: rest =>
    match cutLast sep rest with
    | some (before, after) => some (c :: before, after)
    | none => if c = sep then some ([], rest) else none

theorem cutFirst_eq_none_iff {sep : Char} {t : Text} : cutFirst sep t = none ↔ sep ∉ t := by
  induction t with
  | nil => simp [cutFirst]
  | cons c rest ih =>
    by_cases h : c = sep
    · simp [cutFirst, h]
    · simp [cutFirst, h, ih, Ne.symm h]

/-- The two sides of the first separator: the left one is free of it. -/
theorem cutFirst_eq_some_iff {sep : Char} {t before after : Text} :
    cutFirst sep t = some (before, after) ↔ t = before ++ sep :: after ∧ sep ∉ before := by
  induction t generalizing before with
  | nil => simp [cutFirst]
  | cons c rest ih =>
    by_cases h : c = sep
    · subst h
      cases before with
      | nil => simp [cutFirst, eq_comm]
      | cons b bs => simp only [cutFirst, if_pos]; simp; grind
    · cases before with
      | nil => simp [cutFirst, h]
      | cons b bs => simp [cutFirst, h, ih]; grind

theorem cutLast_eq_none_iff {sep : Char} {t : Text} : cutLast sep t = none ↔ sep ∉ t := by
  induction t with
  | nil => simp [cutLast]
  | cons c rest ih =>
    rw [cutLast]
    split
    · rename_i before after heq
      have : sep ∈ rest := by
        apply Classical.byContradiction
        intro hn
        rw [ih.2 hn] at heq
        simp at heq
      simp [this]
    · rename_i heq
      have hn := ih.1 heq
      by_cases h : c = sep
      · simp [h]
      · simp [h, hn, Ne.symm h]

/-- The two sides of the last separator: the right one is free of it. -/
theorem cutLast_eq_some_iff {sep : Char} {t before after : Text} :
    cutLast sep t = some (before, after) ↔ t = before ++ sep :: after ∧ sep ∉ after := by
  induction t generalizing before after with
  | nil => simp [cutLast]
  | cons c rest ih =>
    rw [cutLast]
    split
    · rename_i b a heq
      have hr := ih.1 heq
      constructor
      · rintro ⟨⟩
        exact ⟨by simp [hr.1], hr.2⟩
      · rintro ⟨h, hn⟩
        cases before with
        | nil =>
          simp at h
          exact absurd (by rw [← h.2, hr.1]; simp : sep ∈ after) hn
        | cons x xs =>
          simp at h
          have := ih.2 ⟨h.2, hn⟩
          rw [this] at heq
          simp at heq
          simp [heq, h.1]
    · rename_i heq
      have hn := cutLast_eq_none_iff.1 heq
      by_cases h : c = sep
      · subst h
        simp only [if_pos, Option.some.injEq, Prod.mk.injEq]
        constructor
        · rintro ⟨rfl, rfl⟩
          simp [hn]
        · rintro ⟨he, ha⟩
          cases before with
          | nil => simpa using he
          | cons x xs =>
            simp at he
            exact absurd (by rw [he.2]; simp : c ∈ rest) hn
      · simp only [h, if_false, reduceCtorEq, false_iff, not_and]
        rintro he -
        cases before with
        | nil => simp at he; exact h he.1
        | cons x xs =>
          simp at he
          exact hn (by rw [he.2]; simp)

/-! ### Joining -/

/-- The pieces in order, with `sep` between neighbours. -/
def joinWith (sep : Text) : List Text → Text
  | [] => []
  | [piece] => piece
  | piece :: next :: pieces => piece ++ sep ++ joinWith sep (next :: pieces)

end Text

end ThresholdCheck
