import ThresholdCheck.Text.Split

/-!
# Pieces that are not empty

`Text.segments` drops the empty pieces, so that separators at the ends of a text, and all but one
of several neighbouring ones, change nothing. Going the other way, the pieces determine the text up
to the lengths of the runs of separators around them: this is what a reader that works on pieces
has to be compared with a grammar by.

## Main results

* `Text.segments_append_sep` — a separator keeps the pieces of its two sides apart
* `Text.append_sep_inj` — the first separator cuts a text in one way
* `Text.segments_replicate_append`, `Text.segments_append_replicate` — runs of separators at the
  ends do not count
* `Text.eq_replicate_of_segments_eq_nil`, `Text.exists_of_segments_eq_cons` — the text of some
  pieces
* `Text.subset_of_mem_segments` — a piece has no characters of its own
* `Text.cons_joinWith` — pieces put together, one separator for each
* `Text.segments_joinWith`, `Text.segments_joinWith_segments` — pieces that are put together again
-/

namespace ThresholdCheck

namespace Text

variable {sep : Char}

/-! ### From a text to its pieces -/

theorem splitOn_append_sep (sep : Char) (s t : Text) :
    splitOn sep (s ++ sep :: t) = splitOn sep s ++ splitOn sep t := by
  induction s with
  | nil => simp [splitOn]
  | cons c s ih =>
    rw [List.cons_append, splitOn, splitOn]
    by_cases hc : c = sep
    · simp [hc, ih]
    · obtain ⟨piece, pieces, hs⟩ := List.exists_cons_of_ne_nil (splitOn_ne_nil sep s)
      simp [hc, ih, hs]

theorem segments_append_sep (sep : Char) (s t : Text) :
    segments sep (s ++ sep :: t) = segments sep s ++ segments sep t := by
  simp [segments, splitOn_append_sep]

@[simp] theorem segments_nil (sep : Char) : segments sep [] = [] := rfl

theorem segments_of_not_mem {t : Text} (ht : t ≠ []) (h : sep ∉ t) : segments sep t = [t] := by
  simp [segments, splitOn_of_not_mem h, ht]

@[simp] theorem segments_cons_sep (sep : Char) (t : Text) :
    segments sep (sep :: t) = segments sep t :=
  segments_append_sep sep [] t

@[simp] theorem segments_replicate_append (sep : Char) (n : Nat) (t : Text) :
    segments sep (List.replicate n sep ++ t) = segments sep t := by
  induction n with
  | zero => rfl
  | succ n ih => simp [List.replicate_succ, ih]

@[simp] theorem segments_append_replicate (sep : Char) (t : Text) (n : Nat) :
    segments sep (t ++ List.replicate n sep) = segments sep t := by
  cases n with
  | zero => simp
  | succ n =>
    have hrun := segments_replicate_append sep n []
    rw [List.append_nil, segments_nil] at hrun
    rw [List.replicate_succ, segments_append_sep, hrun, List.append_nil]

/-- A piece has no characters that the text does not have. -/
theorem subset_of_mem_splitOn {t piece : Text} (h : piece ∈ splitOn sep t) : piece ⊆ t := by
  induction t generalizing piece with
  | nil =>
    rw [List.mem_singleton.1 h]
    exact List.Subset.refl []
  | cons c t ih =>
    rw [splitOn] at h
    split at h
    · rcases List.mem_cons.1 h with rfl | h
      · exact List.nil_subset _
      · exact List.subset_cons_of_subset c (ih h)
    · obtain ⟨first, others, hs⟩ := List.exists_cons_of_ne_nil (splitOn_ne_nil sep t)
      rw [hs] at h
      rcases List.mem_cons.1 h with rfl | h
      · exact List.cons_subset_cons c (ih (hs ▸ List.mem_cons_self ..))
      · exact List.subset_cons_of_subset c (ih (hs ▸ List.mem_cons_of_mem _ h))

theorem subset_of_mem_segments {t piece : Text} (h : piece ∈ segments sep t) : piece ⊆ t :=
  subset_of_mem_splitOn (List.mem_filter.1 h).1

/-- A text is cut at its first separator in one way only. -/
theorem append_sep_inj {s s' t t' : Text} (hs : sep ∉ s) (hs' : sep ∉ s') :
    s ++ sep :: t = s' ++ sep :: t' ↔ s = s' ∧ t = t' := by
  constructor
  · intro heq
    have hcut := (cutFirst_eq_some_iff (t := s ++ sep :: t)).2 ⟨heq, hs'⟩
    rw [cutFirst_eq_some_iff.2 ⟨rfl, hs⟩, Option.some.injEq, Prod.mk.injEq] at hcut
    exact hcut
  · rintro ⟨rfl, rfl⟩
    rfl

/-! ### From the pieces to the text -/

/-- A text that does not begin with the separator begins with its first piece. -/
theorem exists_first_segment {c : Char} (hc : c ≠ sep) (t : Text) :
    ∃ piece rest, c :: t = piece ++ rest ∧ (rest = [] ∨ ∃ after, rest = sep :: after) ∧
      segments sep (c :: t) = piece :: segments sep rest := by
  cases hcut : cutFirst sep (c :: t) with
  | none =>
    have hfree := cutFirst_eq_none_iff.1 hcut
    exact ⟨c :: t, [], by simp, .inl rfl, segments_of_not_mem (by simp) hfree⟩
  | some sides =>
    obtain ⟨before, after⟩ := sides
    obtain ⟨heq, hfree⟩ := cutFirst_eq_some_iff.1 hcut
    have hne : before ≠ [] := by
      rintro rfl
      exact hc (List.cons.inj heq).1
    refine ⟨before, sep :: after, heq, .inr ⟨after, rfl⟩, ?_⟩
    rw [heq, segments_append_sep, segments_of_not_mem hne hfree, segments_cons_sep]
    rfl

/-- A text without pieces is a run of separators. -/
theorem eq_replicate_of_segments_eq_nil {t : Text} (h : segments sep t = []) :
    ∃ n, t = List.replicate n sep := by
  induction t with
  | nil => exact ⟨0, rfl⟩
  | cons c t ih =>
    by_cases hc : c = sep
    · subst hc
      obtain ⟨n, rfl⟩ := ih (by rwa [segments_cons_sep] at h)
      exact ⟨n + 1, rfl⟩
    · obtain ⟨piece, rest, -, -, hs⟩ := exists_first_segment hc t
      rw [hs] at h
      cases h

/-- A text with a first piece is a run of separators before that piece, and what follows it is
empty or begins with the separator. -/
theorem exists_of_segments_eq_cons {t piece : Text} {pieces : List Text}
    (h : segments sep t = piece :: pieces) :
    ∃ n rest, t = List.replicate n sep ++ piece ++ rest ∧
      (rest = [] ∨ ∃ after, rest = sep :: after) ∧ segments sep rest = pieces := by
  induction t with
  | nil => cases h
  | cons c t ih =>
    by_cases hc : c = sep
    · subst hc
      obtain ⟨n, rest, ht, hrest, hpieces⟩ := ih (by rwa [segments_cons_sep] at h)
      exact ⟨n + 1, rest, by rw [ht]; rfl, hrest, hpieces⟩
    · obtain ⟨first, rest, ht, hrest, hs⟩ := exists_first_segment hc t
      rw [hs] at h
      obtain ⟨rfl, rfl⟩ := List.cons.inj h
      exact ⟨0, rest, ht, hrest, rfl⟩

/-! ### Pieces put together -/

theorem joinWith_cons {piece : Text} {pieces : List Text} (h : pieces ≠ []) :
    joinWith [sep] (piece :: pieces) = piece ++ sep :: joinWith [sep] pieces := by
  obtain ⟨next, pieces, rfl⟩ := List.exists_cons_of_ne_nil h
  simp [joinWith]

/-- Pieces with the separator between them, and with one before each. -/
theorem cons_joinWith {pieces : List Text} (h : pieces ≠ []) :
    sep :: joinWith [sep] pieces = pieces.flatMap (sep :: ·) := by
  induction pieces with
  | nil => exact absurd rfl h
  | cons piece pieces ih =>
    by_cases hmore : pieces = []
    · subst hmore
      simp [joinWith]
    · rw [joinWith_cons hmore, List.flatMap_cons, ← ih hmore]
      rfl

/-- Pieces that could have been cut are cut again. -/
theorem segments_joinWith {pieces : List Text} (hne : ∀ piece ∈ pieces, piece ≠ [])
    (hfree : ∀ piece ∈ pieces, sep ∉ piece) : segments sep (joinWith [sep] pieces) = pieces := by
  induction pieces with
  | nil => rfl
  | cons piece pieces ih =>
    rw [List.forall_mem_cons] at hne hfree
    have hpiece : segments sep piece = [piece] := segments_of_not_mem hne.1 hfree.1
    by_cases hmore : pieces = []
    · subst hmore
      exact hpiece
    · rw [joinWith_cons hmore, segments_append_sep, hpiece, ih hne.2 hfree.2]
      rfl

/-- Leaving the empty pieces out leaves the others as they are. -/
theorem segments_joinWith_segments (sep : Char) (t : Text) :
    segments sep (joinWith [sep] (segments sep t)) = segments sep t :=
  segments_joinWith (fun _ => ne_nil_of_mem_segments) (fun _ => not_mem_of_mem_segments)

end Text

end ThresholdCheck
