import ThresholdCheck.Measurement
import ThresholdCheck.Proofs.Decimal.Overflow
import ThresholdCheck.Proofs.Decimal.ValueText
import ThresholdCheck.Proofs.Range.Record

/-!
# Overflow in what is read

A bound that is a decimal too large for the format is refused. The two other readers of numbers
have no such guard: for them the decimal is the infinity of its sign. A measurement is then read
with an infinite value. A record is accepted if its definition has the same infinity at this end,
and since an infinity can be written there without digits, many have.

## Main results

* `readBound_eq_outOfRange_iff` — which bounds are refused as too large
* `Binary64.fixedText_eq_infinite_iff` — an infinity is told by its six digits
* `AlertRange.checkBound_of_overflows` — which ends of a definition such a decimal passes for
* `Text.Overflows.accepted_iff` — all readers
-/

namespace ThresholdCheck

variable {negative : Bool} {t : Text}

/-! ### Bounds -/

theorem Binary64.isInfinite_nearestDecimal_iff {coefficient : Nat} {scale : Int} :
    (nearestDecimal negative coefficient scale).isInfinite = true ↔
      (overflowLimit : ℚ) ≤ coefficient * 10 ^ scale := by
  have hinfinite : nearestDecimal negative coefficient scale = infinite negative ↔ _ :=
    nearestDecimal_eq_infinite_iff
  rw [← hinfinite]
  cases hvalue : nearestDecimal negative coefficient scale with
  | nan => simp [isInfinite]
  | infinite other => simp [isInfinite, sign_of_nearestDecimal_eq_infinite hvalue]
  | finite other m => simp [isInfinite]

/-- A bound is refused as too large if it is the text of a decimal that overflows. -/
theorem readBound_eq_outOfRange_iff {e : Text} :
    readBound t = .error (.outOfRange e) ↔ e = t ∧ ∃ negative, t.Overflows negative := by
  have hread : (∃ negative, t.Overflows negative) ↔ ∃ negative coefficient scale,
      Numeral.read? t = some (.decimal negative coefficient scale) ∧
        (Binary64.nearestDecimal negative coefficient scale).isInfinite = true := by
    simp only [Text.Overflows, Binary64.isInfinite_nearestDecimal_iff]
  rw [hread, readBound]
  by_cases hempty : t.isEmpty
  · obtain rfl := List.isEmpty_iff.1 hempty
    have hnil : Numeral.read? [] = none := by decide
    simp [hnil]
  · by_cases htilde : t = ['~']
    · subst htilde
      have hnone : Numeral.read? ['~'] = none := by decide
      simp [hnone]
    · rw [if_neg hempty, if_neg htilde]
      cases hnumeral : Numeral.read? t with
      | none => simp
      | some numeral =>
        cases numeral with
        | nan => simp
        | infinity other => simp
        | decimal other coefficient scale =>
          by_cases hlarge :
            (Binary64.nearestDecimal other coefficient scale).isInfinite = true
          · simp only [if_pos hlarge]
            constructor
            · rintro ⟨⟩
              exact ⟨rfl, other, coefficient, scale, rfl, hlarge⟩
            · rintro ⟨rfl, -⟩
              rfl
          · simp [hlarge]

/-! ### Ends of records -/

/-- An infinity is told from all other numbers by its text. -/
theorem Binary64.fixedText_eq_infinite_iff {x : Binary64} :
    x.fixedText = (infinite negative).fixedText ↔ x = infinite negative := by
  constructor
  · intro h
    cases x with
    | nan => cases negative <;> cases h
    | infinite other => cases negative <;> cases other <;> first | rfl | cases h
    | finite other m =>
      have hname : (infinite negative).fixedText ∈ specialNames := by cases negative <;> decide
      exact (ne_decimal_of_mem_specialNames hname other (Decimal.natural_ne_nil _)
        (fun _ => Decimal.isDigit_of_mem_natural) ((List.append_nil _).trans h.symm)).elim
  · rintro rfl
    rfl

namespace AlertRange

/-- A decimal that overflows passes for an end of a definition that is the infinity of its sign. -/
theorem checkBound_of_overflows {name definition : Text} {bound : Binary64}
    (h : t.Overflows negative) :
    checkBound name t bound definition = .ok () ↔ bound = .infinite negative := by
  rw [checkBound_eq_ok_iff, Binary64.read?_eq_infinite_iff.2 (.inr h)]
  simp only [Option.some.injEq, exists_eq_left']
  rw [eq_comm, Binary64.fixedText_eq_infinite_iff]

end AlertRange

/-! ### Measurements -/

/-- A measurement whose number overflows is read, with an infinite value. -/
theorem Measurement.read?_of_overflows {text : Text}
    (h : (Text.trim (cut text).2).Overflows negative) :
    Measurement.read? text = some ⟨Text.trim (cut text).1, .infinite negative⟩ := by
  simp only [Measurement.read?, Binary64.read?_eq_infinite_iff.2 (.inr h), Option.map_some]

/-! ### All readers -/

namespace Text.Overflows

/-- **Of all readers only the one for bounds refuses a decimal that is too large.** Take a text that
overflows. As a bound it is refused with its name. As the number of a measurement, whatever the
label, it is read as the infinity of its sign. In a record it is accepted at either end exactly if
the definition has this infinity there and all other fields agree with the definition; so a record
that is decoded with such an end has an infinite range. -/
theorem accepted_iff (h : t.Overflows negative) :
    readBound t = .error (.outOfRange t) ∧
    (∀ text, Text.trim (Measurement.cut text).2 = t →
      Measurement.read? text = some ⟨Text.trim (Measurement.cut text).1, .infinite negative⟩) ∧
    (∀ definition metric inside stop range,
      AlertRange.ofRecord definition metric inside t stop = .ok range ↔
        ∃ zone, Zone.read definition = .ok zone ∧
          inside = AlertRange.expectsInside ⟨metric, definition, zone⟩ ∧
          zone.lower = .infinite negative ∧
          AlertRange.checkBound "end".toList stop zone.upper definition = .ok () ∧
          range = ⟨metric, definition, zone⟩) ∧
    (∀ definition metric inside start range,
      AlertRange.ofRecord definition metric inside start t = .ok range ↔
        ∃ zone, Zone.read definition = .ok zone ∧
          inside = AlertRange.expectsInside ⟨metric, definition, zone⟩ ∧
          AlertRange.checkBound "start".toList start zone.lower definition = .ok () ∧
          zone.upper = .infinite negative ∧
          range = ⟨metric, definition, zone⟩) ∧
    ∀ text definition metric inside start stop rest range,
      Json.readRecord AlertRange.shape text =
          .ok ((definition, metric, inside, start, stop, ()), rest) →
        AlertRange.decode text = .ok range →
          (start = t → range.zone.lower = .infinite negative) ∧
            (stop = t → range.zone.upper = .infinite negative) := by
  refine ⟨readBound_eq_outOfRange_iff.2 ⟨rfl, negative, h⟩, ?_, ?_, ?_, ?_⟩
  · rintro text rfl
    exact Measurement.read?_of_overflows h
  · intro definition metric inside stop range
    simp only [AlertRange.ofRecord_eq_ok_iff, AlertRange.checkBound_of_overflows h]
  · intro definition metric inside start range
    simp only [AlertRange.ofRecord_eq_ok_iff, AlertRange.checkBound_of_overflows h]
  · intro text definition metric inside start stop rest range hrecord hdecode
    obtain ⟨row, rest', hrow, hrange, -⟩ := Json.decode_eq_ok_iff.1 hdecode
    cases hrecord.symm.trans hrow
    obtain ⟨zone, -, -, hstart, hstop, rfl⟩ := AlertRange.ofRecord_eq_ok_iff.1 hrange
    constructor
    · rintro rfl
      exact (AlertRange.checkBound_of_overflows h).1 hstart
    · rintro rfl
      exact (AlertRange.checkBound_of_overflows h).1 hstop

/-- The least decimal of seventeen digits that overflows, below zero: for a range that is open below
the record is accepted. -/
theorem accepted_iff_seventeen_digits :
    let t := "-1.7976931348623159e308".toList
    let range : AlertRange := ⟨[], "~:".toList, ⟨.outside, .negInf, .posInf⟩⟩
    Text.Overflows true t ∧ readBound t = .error (.outOfRange t) ∧
      Measurement.read? ("load=".toList ++ t) = some ⟨"load".toList, .negInf⟩ ∧
      AlertRange.ofRecord "~:".toList [] true t "+Inf".toList = .ok range := by
  intro t range
  have hlimit : overflowLimit ≤ 17976931348623159 * 10 ^ 292 := by
    unfold overflowLimit
    decide +kernel
  have hoverflows : Text.Overflows true t := by
    refine ⟨17976931348623159, 292, by decide +kernel, ?_⟩
    rw [zpow_ofNat]
    exact_mod_cast hlimit
  obtain ⟨hbound, hmeasurement, hstart, -⟩ := accepted_iff hoverflows
  have hcut : Measurement.cut ("load=".toList ++ t) = ("load".toList, t) := by
    have hlabelled : "load=".toList ++ t = "load".toList ++ '=' :: t := rfl
    rw [hlabelled, Measurement.cut_append (by decide)]
  refine ⟨hoverflows, hbound, ?_, ?_⟩
  · have hread := hmeasurement ("load=".toList ++ t)
    rw [hcut] at hread
    exact hread (by decide)
  · refine (hstart _ _ _ _ _).2 ⟨range.zone, by decide +kernel, rfl, rfl, ?_, rfl⟩
    exact (AlertRange.checkBound_eq_ok_iff).2 ⟨.posInf, by decide +kernel, rfl⟩

/-- A decimal of four hundred places is a measured infinity, and the end of a record. -/
theorem accepted_iff_four_hundred_places :
    let t := "1e400".toList
    let record := "\x7b\"definition\":\"10:\",\"metric\":\"\",\"inside\":true,".toList ++
      "\"start\":\"10.000000\",\"end\":\"1e400\"\x7d".toList
    Text.Overflows false t ∧ Measurement.read? t = some ⟨[], .posInf⟩ ∧
      ∃ range, AlertRange.decode record = .ok range := by
  intro t record
  have hlimit : overflowLimit ≤ 1 * 10 ^ 400 := by
    unfold overflowLimit
    decide +kernel
  have hdecoded : (AlertRange.decode record).toOption.isSome = true := by decide +kernel
  refine ⟨⟨1, 400, by decide +kernel, ?_⟩, by decide +kernel, ?_⟩
  · rw [zpow_ofNat]
    exact_mod_cast hlimit
  · cases hdecode : AlertRange.decode record with
    | error e =>
      rw [hdecode] at hdecoded
      cases hdecoded
    | ok range => exact ⟨range, rfl⟩

end Text.Overflows

end ThresholdCheck
