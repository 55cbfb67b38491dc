import ThresholdCheck.Proofs.Decimal.NumeralText
import ThresholdCheck.Proofs.Except
import ThresholdCheck.Proofs.Text.Segments
import ThresholdCheck.Range.Definition

/-!
# The grammar of ranges

The reader cuts a text at its separators and throws empty pieces away. The grammar says the same
without a word about cutting: which texts are ranges, and which range each of them denotes.

```
range      := [metric ","] definition
definition := ["@"] bounds
bounds     := x  |  ":"+ x  |  ":"* x ":"+  |  ":"* x ":"+ y ":"*
```

## What makes it unambiguous

No bound holds a colon, so the form of the bounds can be told from their pieces and from whether
they begin and end with one. No bound holds an at sign, so one at the front of a definition is
never part of a bound. No definition holds a comma.

## Main definitions

* `IsBound` — the text of one bound
* `BoundsForm`, `Spans` — the four forms of bounds, and the interval that bounds span
* `AlertRange.Derives` — a text of the grammar with its range

## Main results

* `readBounds_eq_ok_iff` — bounds are read as the interval they span
* `Zone.read_eq_ok_iff` — a definition is read as its side and its interval
* `Spans.isMark_or_of_mem`, `Zone.comma_not_mem_of_read` — the characters of bounds and definitions
* `AlertRange.read_eq_ok_iff` — a range is read as its metric, its definition and its zone
* `AlertRange.read_eq_ok_iff_derives` — the reader accepts the grammar, which is unambiguous
-/

namespace ThresholdCheck

/-! ### Bounds -/

/-- The text `t` is one bound, with the value `x`. -/
structure IsBound (t : Text) (x : Binary64) : Prop where
  ne_nil : t ≠ []
  colon_not_mem : ':' ∉ t
  read : readBound t = .ok x

/-- A text that is read as a bound consists of the characters of numbers, or is a tilde. -/
theorem isMark_of_readBound {t : Text} {x : Binary64} (h : readBound t = .ok x) :
    ∀ c ∈ t, Numeral.isMark c ∨ c = '~' := by
  rw [readBound] at h
  split at h
  · cases h
  · split at h
    · rename_i ht
      simp [ht]
    · intro c hc
      split at h
      · cases h
      · rename_i hread
        exact .inl (Numeral.isMark_of_mem hread c hc)
      · rename_i hread
        exact .inl (Numeral.isMark_of_mem hread c hc)

theorem isBound_of_readBound {t : Text} {x : Binary64} (h : readBound t = .ok x) :
    IsBound t x := by
  refine ⟨?_, fun hc => ?_, h⟩
  · rintro rfl
    cases h
  · rcases isMark_of_readBound h ':' hc with hm | hm <;> revert hm <;> decide

namespace IsBound

variable {t : Text} {x : Binary64}

theorem segments (h : IsBound t x) : Text.segments ':' t = [t] :=
  Text.segments_of_not_mem h.ne_nil h.colon_not_mem

theorem getLast?_append (h : IsBound t x) (s : Text) : (s ++ t).getLast? ≠ some ':' := by
  rw [List.getLast?_append_of_ne_nil s h.ne_nil]
  intro hlast
  exact h.colon_not_mem (List.mem_of_getLast? hlast)

end IsBound

/-- The ways of giving bounds. -/
inductive BoundsForm where
  /-- The upper bound alone: the lower one is zero. -/
  | upper
  /-- Nothing before the colon: the lower bound is open. -/
  | upTo
  /-- Nothing after the colon: the upper bound is open. -/
  | onward
  | between
deriving DecidableEq

/-- So many colons. -/
def colons (n : Nat) : Text := List.replicate n ':'

theorem getLast?_append_colons (t : Text) (n : Nat) :
    (t ++ colons (n + 1)).getLast? = some ':' := by
  rw [colons, List.replicate_succ', ← List.append_assoc, List.getLast?_append]
  rfl

/-- Bounds of some form, with the two ends of the interval that they span. -/
inductive Spans : BoundsForm → Text → Binary64 → Binary64 → Prop
  | upper {s : Text} {x : Binary64} (hx : IsBound s x) : Spans .upper s (.zero false) x
  | upTo {s : Text} {x : Binary64} (n : Nat) (hx : IsBound s x) :
      Spans .upTo (colons (n + 1) ++ s) .negInf x
  | onward {s : Text} {x : Binary64} (n k : Nat) (hx : IsBound s x) :
      Spans .onward (colons n ++ s ++ colons (k + 1)) x .posInf
  | between {s t : Text} {x y : Binary64} (n m k : Nat) (hx : IsBound s x) (hy : IsBound t y) :
      Spans .between (colons n ++ s ++ colons (m + 1) ++ t ++ colons k) x y

/-- The colons between two bounds keep their pieces apart. -/
theorem segments_between {s t : Text} {x y : Binary64} (n m k : Nat) (hx : IsBound s x)
    (hy : IsBound t y) :
    Text.segments ':' (colons n ++ s ++ colons (m + 1) ++ t ++ colons k) = [s, t] := by
  have hsplit : colons n ++ s ++ colons (m + 1) ++ t ++ colons k
      = (colons n ++ s) ++ ':' :: (colons m ++ (t ++ colons k)) := by
    simp [colons, List.replicate_succ]
  rw [hsplit, Text.segments_append_sep]
  simp [colons, hx.segments, hy.segments]

/-! #### The reader finds what bounds span -/

theorem Spans.readBounds {form : BoundsForm} {t : Text} {lower upper : Binary64}
    (h : Spans form t lower upper) : readBounds t = .ok (lower, upper) := by
  cases h with
  | upper hx =>
    rw [ThresholdCheck.readBounds, if_neg hx.colon_not_mem, hx.read]
    rfl
  | @upTo s _ n hx =>
    have hs : Text.segments ':' (colons (n + 1) ++ s) = [s] := by simp [colons, hx.segments]
    rw [ThresholdCheck.readBounds, if_pos (by simp [colons]), hs]
    simp only [if_neg (hx.getLast?_append _), hx.read]
    rfl
  | @onward s _ n k hx =>
    have hs : Text.segments ':' (colons n ++ s ++ colons (k + 1)) = [s] := by
      simp [colons, hx.segments]
    rw [ThresholdCheck.readBounds, if_pos (by simp [colons]), hs]
    simp only [if_pos (getLast?_append_colons _ k), hx.read]
    rfl
  | between n m k hx hy =>
    rw [ThresholdCheck.readBounds, if_pos (by simp [colons]), segments_between n m k hx hy]
    simp only [hx.read, hy.read]
    rfl

/-! #### Bounds that are read span their interval -/

/-- The text of a single piece: colons around it. -/
theorem exists_of_segments_eq_singleton {t s : Text} (h : Text.segments ':' t = [s]) :
    ∃ n k, t = colons n ++ s ++ colons k := by
  obtain ⟨n, rest, rfl, -, hrest⟩ := Text.exists_of_segments_eq_cons h
  obtain ⟨k, rfl⟩ := Text.eq_replicate_of_segments_eq_nil hrest
  exact ⟨n, k, rfl⟩

/-- The text of two pieces: colons around them and at least one between them. -/
theorem exists_of_segments_eq_pair {t s s' : Text} (h : Text.segments ':' t = [s, s']) :
    ∃ n m k, t = colons n ++ s ++ colons (m + 1) ++ s' ++ colons k := by
  obtain ⟨n, rest, rfl, hrest, hpieces⟩ := Text.exists_of_segments_eq_cons h
  rcases hrest with rfl | ⟨after, rfl⟩
  · cases hpieces
  · rw [Text.segments_cons_sep] at hpieces
    obtain ⟨m, k, rfl⟩ := exists_of_segments_eq_singleton hpieces
    exact ⟨n, m, k, by simp [colons, List.replicate_succ]⟩

/-- A single piece before a last colon is the lower bound. -/
theorem spans_onward_of_segments {t s : Text} {x : Binary64} (hs : Text.segments ':' t = [s])
    (hlast : t.getLast? = some ':') (hx : IsBound s x) : Spans .onward t x .posInf := by
  obtain ⟨n, k, rfl⟩ := exists_of_segments_eq_singleton hs
  cases k with
  | zero => exact absurd hlast (by simpa [colons] using hx.getLast?_append (colons n))
  | succ k => exact .onward n k hx

/-- A single piece that is not before a last colon, although there is one, is the upper bound. -/
theorem spans_upTo_of_segments {t s : Text} {x : Binary64} (hs : Text.segments ':' t = [s])
    (hcolon : ':' ∈ t) (hlast : t.getLast? ≠ some ':') (hx : IsBound s x) :
    Spans .upTo t .negInf x := by
  obtain ⟨n, k, rfl⟩ := exists_of_segments_eq_singleton hs
  cases k with
  | succ k => exact absurd (getLast?_append_colons _ k) hlast
  | zero =>
    cases n with
    | zero => exact absurd (by simpa [colons] using hcolon) hx.colon_not_mem
    | succ n => simpa [colons] using Spans.upTo n hx

theorem exists_spans_of_readBounds {t : Text} {lower upper : Binary64}
    (h : readBounds t = .ok (lower, upper)) : ∃ form, Spans form t lower upper := by
  rw [readBounds] at h
  split at h
  · rename_i hcolon
    split at h
    · cases h
    · rename_i s hs
      split at h
      · rename_i hlast
        obtain ⟨x, hx, hpair⟩ := Except.bind_eq_ok_iff.1 h
        cases hpair
        exact ⟨_, spans_onward_of_segments hs hlast (isBound_of_readBound hx)⟩
      · rename_i hlast
        obtain ⟨x, hx, hpair⟩ := Except.bind_eq_ok_iff.1 h
        cases hpair
        exact ⟨_, spans_upTo_of_segments hs hcolon hlast (isBound_of_readBound hx)⟩
    · rename_i s s' hs
      obtain ⟨n, m, k, rfl⟩ := exists_of_segments_eq_pair hs
      obtain ⟨x, hx, h⟩ := Except.bind_eq_ok_iff.1 h
      obtain ⟨y, hy, hpair⟩ := Except.bind_eq_ok_iff.1 h
      cases hpair
      exact ⟨_, .between n m k (isBound_of_readBound hx) (isBound_of_readBound hy)⟩
    · cases h
  · obtain ⟨x, hx, hpair⟩ := Except.bind_eq_ok_iff.1 h
    cases hpair
    exact ⟨_, .upper (isBound_of_readBound hx)⟩

theorem readBounds_eq_ok_iff {t : Text} {lower upper : Binary64} :
    readBounds t = .ok (lower, upper) ↔ ∃ form, Spans form t lower upper :=
  ⟨exists_spans_of_readBounds, fun ⟨_, h⟩ => h.readBounds⟩

/-! #### Which form bounds have -/

/-- The form of bounds, from their colons and their pieces. -/
def formOf (t : Text) : BoundsForm :=
  if ':' ∉ t then .upper
  else if 1 < (Text.segments ':' t).length then .between
  else if t.getLast? = some ':' then .onward
  else .upTo

theorem Spans.formOf_eq {form : BoundsForm} {t : Text} {lower upper : Binary64}
    (h : Spans form t lower upper) : formOf t = form := by
  cases h with
  | upper hx => rw [formOf, if_pos hx.colon_not_mem]
  | upTo n hx =>
    rw [formOf, if_neg (by simp [colons]), if_neg (by simp [colons, hx.segments]),
      if_neg (hx.getLast?_append _)]
  | onward n k hx =>
    rw [formOf, if_neg (by simp [colons]), if_neg (by simp [colons, hx.segments]),
      if_pos (getLast?_append_colons _ k)]
  | between n m k hx hy =>
    rw [formOf, if_neg (by simp [colons]), segments_between n m k hx hy]
    exact if_pos Nat.one_lt_two

/-- Bounds have one form and span one interval. -/
theorem Spans.unique {form form' : BoundsForm} {t : Text} {lower upper lower' upper' : Binary64}
    (h : Spans form t lower upper) (h' : Spans form' t lower' upper') :
    form = form' ∧ lower = lower' ∧ upper = upper' := by
  refine ⟨h.formOf_eq.symm.trans h'.formOf_eq, ?_⟩
  have hread := h.readBounds.symm.trans h'.readBounds
  simpa using hread

/-- Bounds consist of the characters of numbers, of tildes and of colons. -/
theorem Spans.isMark_or_of_mem {form : BoundsForm} {t : Text} {lower upper : Binary64} {c : Char}
    (h : Spans form t lower upper) (hc : c ∈ t) : Numeral.isMark c ∨ c = '~' ∨ c = ':' := by
  have hbound : ∀ {s : Text} {x : Binary64}, IsBound s x → c ∈ s →
      Numeral.isMark c ∨ c = '~' ∨ c = ':' :=
    fun hx hc => (isMark_of_readBound hx.read c hc).imp_right .inl
  have hcolons : ∀ {n : Nat}, c ∈ colons n → Numeral.isMark c ∨ c = '~' ∨ c = ':' :=
    fun hc => .inr (.inr (List.eq_of_mem_replicate hc))
  cases h with
  | upper hx => exact hbound hx hc
  | upTo n hx => exact (List.mem_append.1 hc).elim hcolons (hbound hx)
  | onward n k hx =>
    simp only [List.mem_append] at hc
    rcases hc with (hc | hc) | hc
    · exact hcolons hc
    · exact hbound hx hc
    · exact hcolons hc
  | between n m k hx hy =>
    simp only [List.mem_append] at hc
    rcases hc with (((hc | hc) | hc) | hc) | hc
    · exact hcolons hc
    · exact hbound hx hc
    · exact hcolons hc
    · exact hbound hy hc
    · exact hcolons hc

theorem Spans.at_not_mem {form : BoundsForm} {t : Text} {lower upper : Binary64}
    (h : Spans form t lower upper) : '@' ∉ t := by
  intro hc
  rcases h.isMark_or_of_mem hc with hm | hm <;> revert hm <;> decide

theorem Spans.comma_not_mem {form : BoundsForm} {t : Text} {lower upper : Binary64}
    (h : Spans form t lower upper) : ',' ∉ t := by
  intro hc
  rcases h.isMark_or_of_mem hc with hm | hm <;> revert hm <;> decide

theorem Spans.ne_nil {form : BoundsForm} {t : Text} {lower upper : Binary64}
    (h : Spans form t lower upper) : t ≠ [] := by
  cases h with
  | upper hx => exact hx.ne_nil
  | upTo n hx => simp [hx.ne_nil]
  | onward n k hx => simp [hx.ne_nil]
  | between n m k hx hy => simp [hx.ne_nil]

/-! ### Definitions -/

/-- A definition with its alerting side and its bounds. -/
inductive Sided : Text → Sense → Text → Prop
  | outside (bounds : Text) : Sided bounds .outside bounds
  | inside (bounds : Text) : Sided ('@' :: bounds) .inside bounds

theorem sided_cutSense (definition : Text) :
    Sided definition (cutSense definition).1 (cutSense definition).2 := by
  unfold cutSense
  split
  · exact .inside _
  · exact .outside _

theorem Sided.ne_nil {definition bounds : Text} {sense : Sense}
    (h : Sided definition sense bounds) (hne : bounds ≠ []) : definition ≠ [] := by
  cases h with
  | outside => exact hne
  | inside => simp

theorem Sided.comma_not_mem_iff {definition bounds : Text} {sense : Sense}
    (h : Sided definition sense bounds) : ',' ∉ definition ↔ ',' ∉ bounds := by
  cases h <;> simp

/-- The side is found again as long as the bounds do not begin with an at sign. -/
theorem Sided.cutSense_eq {definition bounds : Text} {sense : Sense}
    (h : Sided definition sense bounds) (hat : '@' ∉ bounds) :
    cutSense definition = (sense, bounds) := by
  cases h with
  | inside => rfl
  | outside =>
    unfold cutSense
    split
    · simp at hat
    · rfl

theorem Sided.sense_eq_inside_iff {definition bounds : Text} {sense : Sense}
    (h : Sided definition sense bounds) (hat : '@' ∉ bounds) :
    sense = .inside ↔ definition.head? = some '@' := by
  cases h with
  | outside =>
    simp only [reduceCtorEq, false_iff]
    exact fun hhead => hat (List.mem_of_mem_head? hhead)
  | inside => simp

/-- A definition is read as its side and the interval that its bounds span, unless that interval is
reversed. -/
theorem Zone.read_eq_ok_iff {definition : Text} {zone : Zone} :
    Zone.read definition = .ok zone ↔
      ∃ bounds form, Sided definition zone.sense bounds ∧
        Spans form bounds zone.lower zone.upper ∧ zone.upper.lt zone.lower = false := by
  constructor
  · intro h
    rw [Zone.read] at h
    simp only at h
    split at h
    · cases h
    · obtain ⟨⟨lower, upper⟩, hbounds, h⟩ := Except.bind_eq_ok_iff.1 h
      simp only at h
      split at h
      · cases h
      · rename_i hlt
        cases h
        obtain ⟨form, hspans⟩ := readBounds_eq_ok_iff.1 hbounds
        exact ⟨_, form, sided_cutSense definition, hspans, by simpa using hlt⟩
  · rintro ⟨bounds, form, hsided, hspans, hlt⟩
    rw [Zone.read, hsided.cutSense_eq hspans.at_not_mem]
    simp only [List.isEmpty_iff, if_neg hspans.ne_nil]
    exact Except.bind_eq_ok_iff.2 ⟨_, hspans.readBounds, by simp [hlt]⟩

/-- A definition that is read holds no comma. -/
theorem Zone.comma_not_mem_of_read {definition : Text} {zone : Zone}
    (h : Zone.read definition = .ok zone) : ',' ∉ definition := by
  obtain ⟨_, _, hsided, hspans, -⟩ := Zone.read_eq_ok_iff.1 h
  exact hsided.comma_not_mem_iff.2 hspans.comma_not_mem

/-! ### Ranges -/

/-- A text with the metric and the definition that it gives; without a metric that is empty. -/
inductive Named : Text → Text → Text → Prop
  | bare (definition : Text) : Named definition [] definition
  | named {metric : Text} (definition : Text) (hne : metric ≠ []) (hcomma : ',' ∉ metric) :
      Named (metric ++ ',' :: definition) metric definition

theorem Named.cutMetric_eq {t metric definition : Text} (h : Named t metric definition)
    (hne : definition ≠ []) (hcomma : ',' ∉ definition) :
    cutMetric t = .ok (metric, definition) := by
  cases h with
  | bare => exact cutMetric_of_not_mem hcomma
  | named _ hmetric hfree =>
    have hcut := Text.cutFirst_eq_some_iff.2
      ⟨(rfl : metric ++ ',' :: definition = metric ++ ',' :: definition), hfree⟩
    rw [cutMetric, hcut]
    simp [hmetric, hne, hcomma]

theorem named_of_cutMetric {t metric definition : Text}
    (h : cutMetric t = .ok (metric, definition)) : Named t metric definition := by
  obtain ⟨rfl, hmetric, -⟩ := cutMetric_eq_ok h
  by_cases hne : metric = []
  · subst hne
    exact .bare definition
  · simpa [hne] using Named.named definition hne hmetric

/-- The text `t` is a range of the grammar: a metric or none, a side, and bounds of some form, which
together give the range. -/
structure AlertRange.Derives (t bounds : Text) (form : BoundsForm) (range : AlertRange) : Prop where
  named : Named t range.metric range.definition
  sided : Sided range.definition range.zone.sense bounds
  bounds_ne_nil : bounds ≠ []
  comma_not_mem : ',' ∉ bounds
  spans : Spans form bounds range.zone.lower range.zone.upper
  not_reversed : range.zone.upper.lt range.zone.lower = false

namespace AlertRange

variable {t bounds bounds' : Text} {form form' : BoundsForm} {range range' : AlertRange}

/-- A range is read as its metric, its definition and the zone of that. -/
theorem read_eq_ok_iff :
    AlertRange.read t = .ok range ↔
      cutMetric t = .ok (range.metric, range.definition) ∧
        Zone.read range.definition = .ok range.zone := by
  rw [AlertRange.read, Except.bind_eq_ok_iff]
  constructor
  · rintro ⟨⟨metric, definition⟩, hcut, h⟩
    obtain ⟨zone, hzone, hrange⟩ := Except.bind_eq_ok_iff.1 h
    cases hrange
    exact ⟨hcut, hzone⟩
  · rintro ⟨hcut, hzone⟩
    exact ⟨_, hcut, Except.bind_eq_ok_iff.2 ⟨_, hzone, rfl⟩⟩

theorem Derives.read_eq (h : Derives t bounds form range) : AlertRange.read t = .ok range := by
  have hcut := h.named.cutMetric_eq (h.sided.ne_nil h.bounds_ne_nil)
    (h.sided.comma_not_mem_iff.2 h.comma_not_mem)
  have hzone := Zone.read_eq_ok_iff.2 ⟨bounds, form, h.sided, h.spans, h.not_reversed⟩
  exact read_eq_ok_iff.2 ⟨hcut, hzone⟩

theorem exists_derives_of_read (h : AlertRange.read t = .ok range) :
    ∃ bounds form, Derives t bounds form range := by
  obtain ⟨hcut, hzone⟩ := read_eq_ok_iff.1 h
  obtain ⟨bounds, form, hsided, hspans, hlt⟩ := Zone.read_eq_ok_iff.1 hzone
  exact ⟨bounds, form, named_of_cutMetric hcut, hsided, hspans.ne_nil, hspans.comma_not_mem,
    hspans, hlt⟩

/-- A text has one derivation. -/
theorem Derives.unique (h : Derives t bounds form range) (h' : Derives t bounds' form' range') :
    bounds = bounds' ∧ form = form' ∧ range = range' := by
  have hrange : range = range' := Except.ok.inj (h.read_eq.symm.trans h'.read_eq)
  subst hrange
  have hcut := (h.sided.cutSense_eq h.spans.at_not_mem).symm.trans
    (h'.sided.cutSense_eq h'.spans.at_not_mem)
  have hbounds : bounds = bounds' := congrArg Prod.snd hcut
  subst hbounds
  exact ⟨rfl, (h.spans.unique h'.spans).1, rfl⟩

/-- **The reader accepts exactly the grammar.** A text with a derivation is read as the range that
it gives and any other text is refused; no text has two derivations; and the side is inside exactly
if the definition begins with an at sign. -/
theorem read_eq_ok_iff_derives (t : Text) :
    (∀ range, AlertRange.read t = .ok range ↔ ∃ bounds form, Derives t bounds form range) ∧
      (∀ bounds form range bounds' form' range', Derives t bounds form range →
        Derives t bounds' form' range' → bounds = bounds' ∧ form = form' ∧ range = range') ∧
      ∀ bounds form range, Derives t bounds form range →
        (range.zone.sense = .inside ↔ range.definition.head? = some '@') := by
  refine ⟨fun range => ⟨exists_derives_of_read, fun ⟨_, _, h⟩ => h.read_eq⟩, ?_, ?_⟩
  · exact fun bounds form range bounds' form' range' h h' => h.unique h'
  · exact fun bounds form range h => h.sided.sense_eq_inside_iff h.spans.at_not_mem

end AlertRange

end ThresholdCheck
