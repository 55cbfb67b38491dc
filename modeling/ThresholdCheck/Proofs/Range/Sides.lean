import ThresholdCheck.Proofs.Range.Grammar

/-!
# The two sides of an interval

An at sign before a definition changes the side that alerts, and nothing else: the bounds behind it
are read as they would be without it, the same texts are refused, and with the same error. Which
values alert is asked in two ways, by `<` for the outside and by `≤` for the inside. Without a NaN
each is the negation of the other, so every value alerts on one side and not on the other. With a
NaN among the three numbers neither comparison need hold, and a NaN as the value alerts on no side.

## Main definitions

* `Sense.flip`, `Zone.flip` — the other side of the same interval

## Main results

* `Zone.alerts_flip` — the other side alerts on the other values
* `Zone.read_at` — an at sign turns to the other side
* `Named.read_eq` — a definition is read alike behind every metric
* `AlertRange.read_with_at` — the same for whole ranges
-/

namespace ThresholdCheck

/-! ### The other side -/

/-- The other side. -/
def Sense.flip : Sense → Sense
  | .outside => .inside
  | .inside => .outside

/-- The same interval with the other side alerting. -/
def Zone.flip (zone : Zone) : Zone := { zone with sense := zone.sense.flip }

/-- Where nothing is NaN, the two sides of an interval share out the values between them. -/
theorem Zone.alerts_flip {zone : Zone} {value : Binary64} (hvalue : value ≠ .nan)
    (hlower : zone.lower ≠ .nan) (hupper : zone.upper ≠ .nan) :
    zone.flip.alerts value = !zone.alerts value := by
  have hstart := Binary64.le_eq_not_lt hlower hvalue
  have hstop := Binary64.le_eq_not_lt hvalue hupper
  rcases zone with ⟨sense, lower, upper⟩
  cases sense with
  | outside =>
    change (lower.le value && value.le upper) = !(value.lt lower || upper.lt value)
    rw [hstart, hstop, Bool.not_or]
  | inside =>
    change (value.lt lower || upper.lt value) = !(lower.le value && value.le upper)
    rw [hstart, hstop, Bool.not_and, Bool.not_not, Bool.not_not]

/-! ### Definitions -/

theorem cutSense_of_head?_ne {definition : Text} (hat : definition.head? ≠ some '@') :
    cutSense definition = (.outside, definition) := by
  unfold cutSense
  split
  · exact absurd rfl hat
  · rfl

theorem Zone.sense_of_read {definition : Text} {zone : Zone}
    (h : Zone.read definition = .ok zone) : zone.sense = (cutSense definition).1 := by
  obtain ⟨bounds, form, hsided, hspans, -⟩ := Zone.read_eq_ok_iff.1 h
  rw [hsided.cutSense_eq hspans.at_not_mem]

/-- An at sign turns a definition to the other side, and refuses no more and no less. -/
theorem Zone.read_at {definition : Text} (hat : definition.head? ≠ some '@') :
    Zone.read ('@' :: definition) = (Zone.read definition).map Zone.flip := by
  have hmarked : cutSense ('@' :: definition) = (.inside, definition) := rfl
  rw [Zone.read, Zone.read, hmarked, cutSense_of_head?_ne hat]
  simp only
  split
  · rfl
  · cases readBounds definition with
    | error e => rfl
    | ok bounds =>
      simp only [bind, Except.bind]
      split <;> rfl

/-! ### Ranges -/

/-- Whatever the metric, what is left to read is the definition. -/
theorem Named.read_eq {t metric definition : Text} (h : Named t metric definition)
    (hne : definition ≠ []) (hcomma : ',' ∉ definition) :
    AlertRange.read t = (Zone.read definition).map (AlertRange.mk metric definition) := by
  rw [AlertRange.read, h.cutMetric_eq hne hcomma]
  simp only [bind, Except.bind]
  cases Zone.read definition <;> rfl

namespace AlertRange

/-- **An at sign changes the side and nothing else.** Take a definition that does not begin with
one, with a metric before it or without. It is refused with and without the at sign, for the same
reason, or it is read both times, with the same metric and the same bounds: as the outside without
it, and as the inside with it. A value then alerts on exactly one of the two unless a NaN is
involved, and a NaN alerts on neither. -/
theorem read_with_at {plain marked metric definition : Text}
    (hplain : Named plain metric definition) (hmarked : Named marked metric ('@' :: definition))
    (hne : definition ≠ []) (hcomma : ',' ∉ definition) (hat : definition.head? ≠ some '@') :
    (∃ e, AlertRange.read plain = .error e ∧ AlertRange.read marked = .error e) ∨
      ∃ lower upper,
        let outer : AlertRange := ⟨metric, definition, ⟨.outside, lower, upper⟩⟩
        let inner : AlertRange := ⟨metric, '@' :: definition, ⟨.inside, lower, upper⟩⟩
        AlertRange.read plain = .ok outer ∧ AlertRange.read marked = .ok inner ∧
          (∀ value, value ≠ .nan → lower ≠ .nan → upper ≠ .nan →
            inner.alerts value = !outer.alerts value) ∧
          outer.alerts .nan = false ∧ inner.alerts .nan = false := by
  rw [hplain.read_eq hne hcomma, hmarked.read_eq (by simp) (by simp [hcomma]), Zone.read_at hat]
  cases hzone : Zone.read definition with
  | error e => exact .inl ⟨e, rfl, rfl⟩
  | ok zone =>
    have hsense : zone.sense = .outside := by
      rw [Zone.sense_of_read hzone, cutSense_of_head?_ne hat]
    obtain ⟨sense, lower, upper⟩ := zone
    cases hsense
    refine .inr ⟨lower, upper, rfl, rfl, fun value hvalue hlower hupper => ?_, ?_, ?_⟩
    · have hflip : (Zone.mk .outside lower upper).flip.alerts value =
          !(Zone.mk .outside lower upper).alerts value := Zone.alerts_flip hvalue hlower hupper
      exact hflip
    · exact Zone.alerts_nan _
    · exact Zone.alerts_nan _

/-- From negative zero on, as a range of a metric with a blank before it: positive zero is inside,
although its sign differs. -/
theorem read_with_at_signed_zeros :
    let definition := ":-0::".toList
    let outer : AlertRange := ⟨" a".toList, definition, ⟨.outside, .zero true, .posInf⟩⟩
    let inner : AlertRange := ⟨" a".toList, '@' :: definition, ⟨.inside, .zero true, .posInf⟩⟩
    Named " a,:-0::".toList " a".toList definition ∧
      Named " a,@:-0::".toList " a".toList ('@' :: definition) ∧ definition ≠ [] ∧
      ',' ∉ definition ∧ definition.head? ≠ some '@' ∧
      AlertRange.read " a,:-0::".toList = .ok outer ∧
      AlertRange.read " a,@:-0::".toList = .ok inner ∧
      outer.alerts (.zero false) = false ∧ inner.alerts (.zero false) = true ∧
      outer.alerts .nan = false ∧ inner.alerts .nan = false := by
  intro definition outer inner
  have hne : " a".toList ≠ [] := by decide
  have hcomma : ',' ∉ " a".toList := by decide
  have hplain : Named " a,:-0::".toList " a".toList definition := .named definition hne hcomma
  have hmarked : Named " a,@:-0::".toList " a".toList ('@' :: definition) :=
    .named ('@' :: definition) hne hcomma
  have hread : AlertRange.read " a,:-0::".toList = .ok outer := by decide +kernel
  refine ⟨hplain, hmarked, by decide, by decide, by decide, hread, ?_⟩
  obtain ⟨e, hrefused, -⟩ | ⟨lower, upper, hplain', hinner, halerts, houterNan, hinnerNan⟩ :=
    read_with_at hplain hmarked (by decide) (by decide) (by decide)
  · rw [hread] at hrefused
    cases hrefused
  · have hsame : outer = ⟨" a".toList, definition, ⟨.outside, lower, upper⟩⟩ :=
      Except.ok.inj (hread.symm.trans hplain')
    obtain rfl : .zero true = lower := congrArg (fun range => range.zone.lower) hsame
    obtain rfl : .posInf = upper := congrArg (fun range => range.zone.upper) hsame
    have houter : outer.alerts (.zero false) = false := by decide +kernel
    refine ⟨hinner, houter, ?_, houterNan, hinnerNan⟩
    have h := halerts (.zero false) (by decide) (by decide) (by decide)
    rwa [houter] at h

end AlertRange

end ThresholdCheck
