import ThresholdCheck.Proofs.Range.Grammar

/-!
# Why a range is refused

A text that the grammar does not derive is refused, with the first thing that is wrong with it. The
metric comes before the definition. In the definition the number of bounds comes before the bounds,
the bounds come from left to right, and whether they are reversed is asked last.

## Main definitions

* `RangeError.Names` — errors about a single bound
* `MetricFault`, `BoundsFault` — what is wrong with a metric or with the bounds
* `Zone.Refused`, `AlertRange.Refused` — texts that are no definition or no range, with the cause
* `AlertRange.FirstFaulty` — the first bound of a range that cannot be read

## Main results

* `cutMetric_eq_error_iff`, `readBounds_eq_error_iff`, `Zone.read_eq_error_iff`,
  `AlertRange.read_eq_error_iff` — each reader fails exactly with these causes
* `AlertRange.firstFaulty_of_names` — an error about a bound names the first faulty one
* `AlertRange.read_ne_error` — the errors that a range never gives
-/

namespace ThresholdCheck

/-! ### Bounds -/

/-- The error is about a bound, and names it. -/
inductive RangeError.Names : RangeError → Text → Prop
  | notANumber (bound : Text) : Names (.notANumber bound) bound
  | outOfRange (bound : Text) : Names (.outOfRange bound) bound

theorem names_of_readBound_eq_error {t : Text} {e : RangeError} (hne : t ≠ [])
    (h : readBound t = .error e) : e.Names t := by
  rw [readBound] at h
  split at h
  · rename_i hempty
    exact absurd (List.isEmpty_iff.1 hempty) hne
  · split at h
    · cases h
    · split at h
      · cases h
        exact .notANumber t
      · simp only at h
        split at h
        · cases h
          exact .outOfRange t
        · cases h
      · cases h

/-- What is wrong with the bounds, of which these are the pieces between colons. -/
inductive BoundsFault (pieces : List Text) : RangeError → Prop
  | none (h : pieces = []) : BoundsFault pieces .emptyRange
  | tooMany (h : 2 < pieces.length) : BoundsFault pieces .tooManyValues
  | unreadable {bound : Text} {e : RangeError} (hlength : pieces.length ≤ 2)
      (h : Except.FirstFailure readBound pieces bound e) : BoundsFault pieces e

theorem boundsFault_nil_iff {e : RangeError} : BoundsFault [] e ↔ e = .emptyRange := by
  constructor
  · intro h
    cases h with
    | none => rfl
    | tooMany h => cases h
    | unreadable _ h => simp [Except.FirstFailure] at h
  · rintro rfl
    exact .none rfl

theorem boundsFault_of_two_lt_length_iff {pieces : List Text} {e : RangeError}
    (hlength : 2 < pieces.length) : BoundsFault pieces e ↔ e = .tooManyValues := by
  constructor
  · intro h
    cases h with
    | none h => simp [h] at hlength
    | tooMany => rfl
    | unreadable h => omega
  · rintro rfl
    exact .tooMany hlength

/-- One or two bounds are faulty if they cannot be read one after the other. -/
theorem boundsFault_iff_mapM {pieces : List Text} {e : RangeError} (hne : pieces ≠ [])
    (hlength : pieces.length ≤ 2) : BoundsFault pieces e ↔ pieces.mapM readBound = .error e := by
  rw [Except.mapM_eq_error_iff]
  constructor
  · intro h
    cases h with
    | none h => exact absurd h hne
    | tooMany h => omega
    | unreadable _ h => exact ⟨_, h⟩
  · rintro ⟨bound, h⟩
    exact .unreadable hlength h

/-- Whether one bound is the lower or the upper one makes no difference for what is wrong with
it. -/
theorem readBounds_eq_error_iff {t : Text} {e : RangeError} (hne : t ≠ []) :
    readBounds t = .error e ↔ BoundsFault (Text.segments ':' t) e := by
  rw [readBounds]
  -- the cases of the reader: no bound, one, two, more, and one without any colon
  split
  · split
    · rename_i hs
      rw [hs, boundsFault_nil_iff, Except.error.injEq, eq_comm]
    · rename_i bound hs
      rw [hs, boundsFault_iff_mapM (by simp) (by simp)]
      split <;> simp [Except.bind_eq_error_iff, pure, Except.pure]
    · rename_i start stop hs
      rw [hs, boundsFault_iff_mapM (by simp) (by simp)]
      simp [Except.bind_eq_error_iff, pure, Except.pure]
    · rename_i hnil hone htwo
      have hlength : 2 < (Text.segments ':' t).length := by
        rcases hs : Text.segments ':' t with - | ⟨a, - | ⟨b, - | ⟨c, more⟩⟩⟩
        · exact absurd hs hnil
        · exact absurd hs (hone a)
        · exact absurd hs (htwo a b)
        · simp
      rw [boundsFault_of_two_lt_length_iff hlength, Except.error.injEq, eq_comm]
  · rename_i hcolon
    rw [Text.segments_of_not_mem hne hcolon, boundsFault_iff_mapM (by simp) (by simp)]
    simp [Except.bind_eq_error_iff, pure, Except.pure]

/-! ### Definitions -/

theorem cutSense_subset (definition : Text) : (cutSense definition).2 ⊆ definition := by
  unfold cutSense
  split
  · exact List.subset_cons_self ..
  · exact List.Subset.refl _

/-- The text is no definition: something is wrong with its bounds, or they are reversed. -/
inductive Zone.Refused (definition : Text) : RangeError → Prop
  | bounds {e : RangeError} (h : BoundsFault (Text.segments ':' (cutSense definition).2) e) :
      Refused definition e
  | reversed {form : BoundsForm} {lower upper : Binary64}
      (hspans : Spans form (cutSense definition).2 lower upper) (hlt : upper.lt lower) :
      Refused definition .reversedBounds

theorem Zone.read_eq_error_iff {definition : Text} {e : RangeError} :
    Zone.read definition = .error e ↔ Zone.Refused definition e := by
  rw [Zone.read]
  simp only [List.isEmpty_iff]
  split
  · rename_i hempty
    rw [Except.error.injEq]
    constructor
    · rintro rfl
      exact .bounds (.none (by rw [hempty]; rfl))
    · intro h
      cases h with
      | bounds h =>
        rw [hempty] at h
        exact (boundsFault_nil_iff.1 h).symm
      | reversed hspans => exact absurd hempty hspans.ne_nil
  · rename_i hne
    rw [Except.bind_eq_error_iff, readBounds_eq_error_iff hne]
    constructor
    · rintro (h | ⟨⟨lower, upper⟩, hread, h⟩)
      · exact .bounds h
      · obtain ⟨form, hspans⟩ := readBounds_eq_ok_iff.1 hread
        simp only at h
        split at h
        · rename_i hlt
          cases h
          exact .reversed hspans hlt
        · cases h
    · intro h
      cases h with
      | bounds h => exact .inl h
      | reversed hspans hlt => exact .inr ⟨_, hspans.readBounds, by simp [hlt]⟩

/-! ### Ranges -/

theorem Named.definition_subset {t metric definition : Text} (h : Named t metric definition) :
    definition ⊆ t := by
  cases h with
  | bare => exact List.Subset.refl _
  | named => exact List.subset_append_of_subset_right _ (List.subset_cons_self ..)

/-- What is wrong with the metric of a text: nothing stands before its first comma, or no definition
without a comma stands behind it. -/
inductive MetricFault (t : Text) : RangeError → Prop
  | empty (h : t.head? = some ',') : MetricFault t .emptyMetric
  | invalid {metric definition : Text} (hcut : t = metric ++ ',' :: definition) (hne : metric ≠ [])
      (hfree : ',' ∉ metric) (h : definition = [] ∨ ',' ∈ definition) :
      MetricFault t .invalidMetric

theorem cutMetric_eq_error_iff {t : Text} {e : RangeError} :
    cutMetric t = .error e ↔ MetricFault t e := by
  constructor
  · intro h
    rw [cutMetric] at h
    split at h
    · cases h
    · rename_i metric definition hcut
      obtain ⟨rfl, hfree⟩ := Text.cutFirst_eq_some_iff.1 hcut
      split at h
      · rename_i hempty
        cases h
        exact .empty (by rw [List.isEmpty_iff.1 hempty]; rfl)
      · rename_i hne
        split at h
        · rename_i hdefinition
          cases h
          exact .invalid rfl (mt List.isEmpty_iff.2 hne) hfree (by simpa using hdefinition)
        · cases h
  · intro h
    cases h with
    | empty h =>
      obtain ⟨rest, rfl⟩ := List.head?_eq_some_iff.1 h
      simp [cutMetric, Text.cutFirst]
    | invalid hcut hne hfree h =>
      rw [cutMetric, Text.cutFirst_eq_some_iff.2 ⟨hcut, hfree⟩]
      simp [hne, h]

/-- The text is no range: something is wrong with its metric, or what follows the metric is no
definition. -/
inductive AlertRange.Refused (t : Text) : RangeError → Prop
  | metric {e : RangeError} (h : MetricFault t e) : Refused t e
  | definition {metric definition : Text} {e : RangeError}
      (hcut : cutMetric t = .ok (metric, definition)) (h : Zone.Refused definition e) : Refused t e

namespace AlertRange

variable {t : Text} {e : RangeError}

theorem read_eq_error_iff : AlertRange.read t = .error e ↔ Refused t e := by
  rw [AlertRange.read, Except.bind_eq_error_iff, cutMetric_eq_error_iff]
  constructor
  · rintro (h | ⟨⟨metric, definition⟩, hcut, h⟩)
    · exact .metric h
    · rcases Except.bind_eq_error_iff.1 h with h | ⟨_, _, hpure⟩
      · exact .definition hcut (Zone.read_eq_error_iff.1 h)
      · cases hpure
  · intro h
    cases h with
    | metric h => exact .inl h
    | definition hcut h =>
      exact .inr ⟨_, hcut, Except.bind_eq_error_iff.2 (.inl (Zone.read_eq_error_iff.2 h))⟩

/-- The first bound of a range that cannot be read, with the cause: the metric is in order, there
are not too many bounds, and those before it are read. -/
def FirstFaulty (t bound : Text) (e : RangeError) : Prop :=
  ∃ metric definition, Named t metric definition ∧ ',' ∉ definition ∧
    Except.FirstFailure readBound (Text.segments ':' (cutSense definition).2) bound e

namespace FirstFaulty

variable {bound : Text}

theorem mem_segments (h : FirstFaulty t bound e) : ∃ metric definition, Named t metric definition ∧
    ',' ∉ definition ∧ bound ∈ Text.segments ':' (cutSense definition).2 := by
  obtain ⟨metric, definition, hnamed, hcomma, before, after, hpieces, -, -⟩ := h
  exact ⟨metric, definition, hnamed, hcomma, by simp [hpieces]⟩

theorem ne_nil (h : FirstFaulty t bound e) : bound ≠ [] := by
  obtain ⟨_, _, -, -, hmem⟩ := h.mem_segments
  exact Text.ne_nil_of_mem_segments hmem

theorem colon_not_mem (h : FirstFaulty t bound e) : ':' ∉ bound := by
  obtain ⟨_, _, -, -, hmem⟩ := h.mem_segments
  exact Text.not_mem_of_mem_segments hmem

theorem comma_not_mem (h : FirstFaulty t bound e) : ',' ∉ bound := by
  obtain ⟨_, definition, -, hcomma, hmem⟩ := h.mem_segments
  exact fun hc => hcomma (cutSense_subset definition (Text.subset_of_mem_segments hmem hc))

theorem subset (h : FirstFaulty t bound e) : bound ⊆ t := by
  obtain ⟨_, definition, hnamed, -, hmem⟩ := h.mem_segments
  exact List.Subset.trans (Text.subset_of_mem_segments hmem)
    (List.Subset.trans (cutSense_subset definition) hnamed.definition_subset)

theorem names (h : FirstFaulty t bound e) : e.Names bound := by
  have hne := h.ne_nil
  obtain ⟨_, _, -, -, _, _, -, -, hread⟩ := h
  exact names_of_readBound_eq_error hne hread

end FirstFaulty

/-- A range is refused for its metric, for the number or the order of its bounds, or for its first
faulty bound. -/
theorem Refused.cases (h : Refused t e) :
    e ∈ [.emptyMetric, .invalidMetric, .emptyRange, .tooManyValues, .reversedBounds] ∨
      ∃ bound, FirstFaulty t bound e := by
  cases h with
  | metric h => cases h <;> simp
  | definition hcut h =>
    cases h with
    | reversed => simp
    | bounds h =>
      cases h with
      | none => simp
      | tooMany => simp
      | unreadable _ h =>
        exact .inr ⟨_, _, _, named_of_cutMetric hcut, (cutMetric_eq_ok hcut).2.2, h⟩

theorem firstFaulty_of_names {bound : Text} (h : AlertRange.read t = .error e)
    (hnames : e.Names bound) : FirstFaulty t bound e := by
  rcases (read_eq_error_iff.1 h).cases with hmem | ⟨faulty, hfaulty⟩
  · cases hnames <;> simp at hmem
  · have hsame : faulty = bound := by
      have hfaultyNames := hfaulty.names
      cases hnames <;> cases hfaultyNames <;> rfl
    exact hsame ▸ hfaulty

/-- Two errors are never those of a range: only a list can lack a metric, and no bound that is read
is empty, since empty pieces are left out. -/
theorem read_ne_error (he : e = .missingMetric ∨ e = .emptyValue) :
    AlertRange.read t ≠ .error e := by
  intro h
  rcases (read_eq_error_iff.1 h).cases with hmem | ⟨bound, hfaulty⟩
  · rcases he with rfl | rfl <;> simp at hmem
  · have hnames := hfaulty.names
    rcases he with rfl | rfl <;> cases hnames

end AlertRange

end ThresholdCheck
