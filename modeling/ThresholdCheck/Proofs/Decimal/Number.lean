import ThresholdCheck.Proofs.Decimal.Literal
import ThresholdCheck.Proofs.Decimal.Nearest

/-!
# What a number stands for

The text of a number is a decimal, the name of an infinity, or a name of NaN. A name stands for what
it names. A decimal has an exact value and stands for a number of the format: for the nearest one,
or from the limit on for the infinity of its sign. No reader is needed to say this.

A reader of numbers finds what a text stands for, and finds nothing where a text is none of the
three. The one fact behind it is `Text.IsDecimal.exists_numeral`: reading a decimal is exact, and
only its last step rounds.

## Main definitions

* `Text.IsNumber` — the texts of numbers
* `Text.StandsFor` — a text with its number

## Main results

* `Text.IsDecimal.exists_numeral` — what a decimal is rounded to, in the terms of its exact value
* `Text.isNumber_iff` — which texts are read as numbers
* `Binary64.read?_eq_some_iff` — which number is read
-/

namespace ThresholdCheck

open Binary64 (finite infinite nearestDecimal)

/-- The text is a decimal, an infinity that is spelled out, or a NaN. -/
def Text.IsNumber (t : Text) : Prop :=
  (∃ negative q, t.IsDecimal negative q) ∨ (∃ negative, t.IsInfinityName negative) ∨ t.IsNanName

/-- A text with the number it stands for. -/
inductive Text.StandsFor : Text → Binary64 → Prop
  /-- The nearest number, with the sign of the text also if it is zero. -/
  | decimal {t : Text} {negative : Bool} {q : ℚ} {m : Magnitude} (h : t.IsDecimal negative q)
      (hlt : |q| < overflowLimit) (hnearest : (finite negative m).IsNearest q) :
      StandsFor t (finite negative m)
  | overflow {t : Text} {negative : Bool} {q : ℚ} (h : t.IsDecimal negative q)
      (hle : overflowLimit ≤ |q|) : StandsFor t (infinite negative)
  | infinity {t : Text} {negative : Bool} (h : t.IsInfinityName negative) :
      StandsFor t (infinite negative)
  | nan {t : Text} (h : t.IsNanName) : StandsFor t .nan

variable {t : Text} {negative : Bool} {q : ℚ} {x : Binary64}

/-! ### Decimals -/

/-- The reader finds a coefficient and a scale of a decimal, and rounds them as the exact value
asks for. -/
theorem Text.IsDecimal.exists_numeral (h : t.IsDecimal negative q) :
    ∃ coefficient scale, Numeral.read? t = some (.decimal negative coefficient scale) ∧
      (nearestDecimal negative coefficient scale = infinite negative ↔ overflowLimit ≤ |q|) ∧
      ∀ m, nearestDecimal negative coefficient scale = finite negative m ↔
        |q| < overflowLimit ∧ (finite negative m).IsNearest q := by
  obtain ⟨coefficient, scale, hread, rfl⟩ := Text.isDecimal_iff.1 h
  refine ⟨coefficient, scale, hread, ?_, fun m => ?_⟩
  · rw [abs_decimal]
    exact Binary64.nearestDecimal_eq_infinite_iff
  · rw [abs_decimal, Binary64.isNearest_finite_iff (by positivity)]
    exact Binary64.nearestDecimal_eq_finite_iff

/-- A decimal overflows, or it has a nearest number. -/
theorem Text.IsDecimal.overflow_or_nearest (h : t.IsDecimal negative q) :
    overflowLimit ≤ |q| ∨ ∃ m, |q| < overflowLimit ∧ (finite negative m).IsNearest q := by
  obtain ⟨coefficient, scale, -, hinfinite, hfinite⟩ := h.exists_numeral
  rcases Binary64.nearestDecimal_eq_infinite_or negative coefficient scale with hvalue | ⟨m, hvalue⟩
  · exact .inl (hinfinite.1 hvalue)
  · exact .inr ⟨m, (hfinite m).1 hvalue⟩

/-! ### All numbers -/

/-- There is a number for each of the texts. -/
theorem Text.IsNumber.exists_standsFor (h : t.IsNumber) : ∃ x, t.StandsFor x := by
  rcases h with ⟨negative, q, hdecimal⟩ | ⟨negative, hinfinity⟩ | hnan
  · rcases hdecimal.overflow_or_nearest with hle | ⟨m, hlt, hnearest⟩
    · exact ⟨_, .overflow hdecimal hle⟩
    · exact ⟨_, .decimal hdecimal hlt hnearest⟩
  · exact ⟨_, .infinity hinfinity⟩
  · exact ⟨_, .nan hnan⟩

theorem Text.StandsFor.isNumber (h : t.StandsFor x) : t.IsNumber := by
  cases h with
  | decimal h => exact .inl ⟨_, _, h⟩
  | overflow h => exact .inl ⟨_, _, h⟩
  | infinity h => exact .inr (.inl ⟨_, h⟩)
  | nan h => exact .inr (.inr h)

theorem Text.StandsFor.read?_eq (h : t.StandsFor x) : Binary64.read? t = some x := by
  rw [Binary64.read?, Option.map_eq_some_iff]
  cases h with
  | decimal h hlt hnearest =>
    obtain ⟨coefficient, scale, hread, -, hfinite⟩ := h.exists_numeral
    exact ⟨_, hread, (hfinite _).2 ⟨hlt, hnearest⟩⟩
  | overflow h hle =>
    obtain ⟨coefficient, scale, hread, hinfinite, -⟩ := h.exists_numeral
    exact ⟨_, hread, hinfinite.2 hle⟩
  | infinity h => exact ⟨_, Numeral.read?_eq_infinity_iff.2 h, rfl⟩
  | nan h => exact ⟨_, Numeral.read?_eq_nan_iff.2 h, rfl⟩

/-- Each kind of numeral has texts of its own. -/
theorem Text.isNumber_iff : t.IsNumber ↔ ∃ numeral, Numeral.read? t = some numeral := by
  constructor
  · rintro (⟨negative, q, h⟩ | ⟨negative, h⟩ | h)
    · obtain ⟨coefficient, scale, hread, -⟩ := Text.isDecimal_iff.1 h
      exact ⟨_, hread⟩
    · exact ⟨_, Numeral.read?_eq_infinity_iff.2 h⟩
    · exact ⟨_, Numeral.read?_eq_nan_iff.2 h⟩
  · rintro ⟨numeral, hread⟩
    cases numeral with
    | decimal negative coefficient scale =>
      exact .inl ⟨negative, _, Text.isDecimal_iff.2 ⟨coefficient, scale, hread, rfl⟩⟩
    | infinity negative => exact .inr (.inl ⟨negative, Numeral.read?_eq_infinity_iff.1 hread⟩)
    | nan => exact .inr (.inr (Numeral.read?_eq_nan_iff.1 hread))

/-- **The reader finds what a text stands for.** -/
theorem Binary64.read?_eq_some_iff : Binary64.read? t = some x ↔ t.StandsFor x := by
  constructor
  · intro h
    obtain ⟨numeral, hread, -⟩ := Option.map_eq_some_iff.1 h
    obtain ⟨y, hy⟩ := (Text.isNumber_iff.2 ⟨numeral, hread⟩).exists_standsFor
    cases hy.read?_eq.symm.trans h
    exact hy
  · exact fun h => h.read?_eq

end ThresholdCheck
