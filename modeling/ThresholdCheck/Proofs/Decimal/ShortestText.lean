import ThresholdCheck.Proofs.Binary64.Overflow
import ThresholdCheck.Proofs.Decimal.Digits
import ThresholdCheck.Proofs.Decimal.RoundingInterval

/-!
# The shortest decimal is found

On a grid of seventeen digits the steps are shorter than the interval around a number, so that one
of the two neighbours of the number lies in it. The search, which begins with coarser grids, ends
there at the latest. Whatever it finds reads back, also without the zeros at its end.

## Main definitions

* `Magnitude.Writes` — what is known of the digits of a number and of the place of the point

## Main results

* `Magnitude.pointPlace_spec` — the size of a number on its grids
* `Magnitude.exists_onGrid?` — a fine grid has a decimal that reads back
* `Magnitude.exists_firstOnGrid` — what the search finds
* `Magnitude.writes_shortest` — the shortest decimal
-/

namespace ThresholdCheck

/- Powers of natural numbers are the core library's, whatever else is loaded. -/
attribute [local instance (2000)] instPowNat

namespace Magnitude

variable {m : Magnitude} {tie : DecimalTie} {scale : Int} {coefficient : Nat}

/-! ### Grids -/

theorem grid_bounds {units one whole length shift count a b : Nat}
    (hle : whole * one ≤ 10 ^ shift * units) (hlt : 10 ^ shift * units < (whole + 1) * one)
    (habove : 10 ^ (length - 1) ≤ whole) (hbelow : whole < 10 ^ length) (hlength : 0 < length)
    (hcount : 1 ≤ count) (hplace : a + shift + count = length + b) :
    10 ^ (count - 1) * (one * 10 ^ a) ≤ units * 10 ^ b ∧
      units * 10 ^ b < 10 ^ count * (one * 10 ^ a) := by
  have hshift : 0 < 10 ^ shift := Nat.pow_pos (by decide)
  constructor
  · have hexponent : shift + (count - 1) + a = (length - 1) + b := by omega
    refine Nat.le_of_mul_le_mul_left ?_ hshift
    calc 10 ^ shift * (10 ^ (count - 1) * (one * 10 ^ a))
      _ = one * 10 ^ (shift + (count - 1) + a) := by
        rw [Nat.pow_add, Nat.pow_add]
        ac_rfl
      _ = 10 ^ (length - 1) * one * 10 ^ b := by
        rw [hexponent, Nat.pow_add]
        ac_rfl
      _ ≤ whole * one * 10 ^ b := Nat.mul_le_mul_right _ (Nat.mul_le_mul_right _ habove)
      _ ≤ 10 ^ shift * units * 10 ^ b := Nat.mul_le_mul_right _ hle
      _ = 10 ^ shift * (units * 10 ^ b) := Nat.mul_assoc ..
  · have hexponent : length + b = shift + count + a := by omega
    refine Nat.lt_of_mul_lt_mul_left (a := 10 ^ shift) ?_
    calc 10 ^ shift * (units * 10 ^ b)
      _ = 10 ^ shift * units * 10 ^ b := (Nat.mul_assoc ..).symm
      _ < (whole + 1) * one * 10 ^ b := Nat.mul_lt_mul_of_pos_right hlt (Nat.pow_pos (by decide))
      _ ≤ 10 ^ length * one * 10 ^ b := Nat.mul_le_mul_right _ (Nat.mul_le_mul_right _ hbelow)
      _ = one * 10 ^ (length + b) := by
        rw [Nat.pow_add]
        ac_rfl
      _ = 10 ^ shift * (10 ^ count * (one * 10 ^ a)) := by
        rw [hexponent, Nat.pow_add, Nat.pow_add]
        ac_rfl

/-- The digits of the whole part are counted after a shift that leaves no zero. -/
theorem exists_shift (m : Magnitude) :
    ∃ shift : Nat, unitsPerOne ≤ 10 ^ shift ∧ shift ≤ 400 ∧
      m.pointPlace = (Decimal.natural (10 ^ shift * m.units / unitsPerOne)).length - shift := by
  refine ⟨400, ?_, Nat.le_refl _, rfl⟩
  unfold unitsPerOne
  decide +kernel

/-- On the grid that gives the number `count` digits it lies between the powers of ten. -/
theorem pointPlace_spec (h : m.units ≠ 0) {count : Nat} (hcount : 1 ≤ count) :
    10 ^ (count - 1) * (unitsPerOne * 10 ^ (m.pointPlace - count).toNat) ≤
        m.units * 10 ^ (-(m.pointPlace - count)).toNat ∧
      m.units * 10 ^ (-(m.pointPlace - count)).toNat <
        10 ^ count * (unitsPerOne * 10 ^ (m.pointPlace - count).toNat) := by
  obtain ⟨shift, hshift, -, hpoint⟩ := m.exists_shift
  have hlength := Decimal.length_natural_pos (10 ^ shift * m.units / unitsPerOne)
  have hwhole : 10 ^ shift * m.units / unitsPerOne ≠ 0 := by
    rw [Ne, Nat.div_eq_zero_iff_lt unitsPerOne_pos, Nat.not_lt]
    exact Nat.le_trans hshift (Nat.le_mul_of_pos_right _ (Nat.pos_of_ne_zero h))
  refine grid_bounds (Nat.div_mul_le_self ..) ?_ (Decimal.ten_pow_le_of_ne_zero hwhole)
    (Decimal.lt_ten_pow_length _) hlength hcount ?_
  · rw [Nat.add_mul, Nat.one_mul]
    exact Nat.lt_div_mul_add unitsPerOne_pos
  · rw [hpoint]
    omega

/-! ### Neighbours -/

theorem nearer_eq (tie : DecimalTie) (m : Magnitude) (coefficient : Nat) (scale : Int) :
    nearer tie m coefficient scale = coefficient ∨
      nearer tie m coefficient scale = coefficient + 1 := by
  simp only [nearer]
  split
  · exact .inl rfl
  · split
    · exact .inr rfl
    · cases tie
      · simp only
        omega
      · exact .inr rfl

/-- What is found on a grid reads back, and is a neighbour of the number. -/
theorem readsBack_of_onGrid? (h : m.onGrid? tie scale = some coefficient) :
    m.readsBack coefficient scale = true ∧
      coefficient ≤ m.units * 10 ^ (-scale).toNat / (unitsPerOne * 10 ^ scale.toNat) + 1 := by
  simp only [onGrid?, powerOfTen] at h
  generalize m.units * 10 ^ (-scale).toNat / (unitsPerOne * 10 ^ scale.toNat) = below at h ⊢
  split at h
  · rename_i hbelow habove
    cases h
    rcases nearer_eq tie m below scale with heq | heq
    · rw [heq]
      exact ⟨hbelow, Nat.le_succ _⟩
    · rw [heq]
      exact ⟨habove, Nat.le_refl _⟩
  · rename_i hbelow habove
    cases h
    exact ⟨hbelow, Nat.le_succ _⟩
  · rename_i hbelow habove
    cases h
    exact ⟨habove, Nat.le_refl _⟩
  · cases h

theorem readsBack_of_lt
    (hlow : m.lowerQuarters * 10 ^ (-scale).toNat <
      4 * (coefficient * (unitsPerOne * 10 ^ scale.toNat)))
    (hhigh : 4 * (coefficient * (unitsPerOne * 10 ^ scale.toNat)) <
      m.upperQuarters * 10 ^ (-scale).toNat) : m.readsBack coefficient scale = true := by
  rw [Nat.mul_left_comm coefficient] at hlow hhigh
  exact readsBack_iff_isAround.2
    ⟨Nat.le_of_lt hlow, Nat.le_of_lt hhigh, fun _ => ⟨hlow, hhigh⟩⟩

/-- A grid whose step is shorter than the interval has a place in it, next to the number. -/
theorem grid_neighbours {s unit grid lower upper : Nat} (hunit : 0 < unit) (hgrid : 0 < grid)
    (hlt : s < 2 ^ 53) (hfine : 10 ^ 16 * grid ≤ s * unit)
    (hlower : s = 2 ^ 52 ∧ lower + unit = 4 * (s * unit) ∨ lower + 2 * unit = 4 * (s * unit))
    (hupper : upper = 4 * (s * unit) + 2 * unit) :
    (lower < 4 * (s * unit / grid * grid) ∧ 4 * (s * unit / grid * grid) < upper) ∨
      (lower < 4 * ((s * unit / grid + 1) * grid) ∧
        4 * ((s * unit / grid + 1) * grid) < upper) := by
  have hbelow := Nat.div_mul_le_self (s * unit) grid
  have habove : s * unit < s * unit / grid * grid + grid := Nat.lt_div_mul_add hgrid
  have hsmall := Nat.mul_lt_mul_of_pos_right hlt hunit
  rw [Nat.add_mul, Nat.one_mul]
  generalize s * unit / grid * grid = place at hbelow habove ⊢
  -- if both places were outside, the step would be as long as the interval
  rcases hlower with ⟨hs, hlower⟩ | hlower
  · subst hs
    omega
  · omega

/-- A grid that is finer than the interval has a decimal that reads back. -/
theorem exists_onGrid? (h : m.units ≠ 0)
    (hfine : 10 ^ 16 * (unitsPerOne * 10 ^ scale.toNat) ≤ m.units * 10 ^ (-scale).toNat) :
    ∃ coefficient, m.onGrid? tie scale = some coefficient := by
  obtain ⟨s, hunits, hlt, -, -⟩ := m.exists_significand
  have hs : 0 < s := Nat.pos_of_ne_zero fun hzero => h (by rw [hunits, hzero, Nat.zero_mul])
  have hden : 0 < 10 ^ (-scale).toNat := Nat.pow_pos (by decide)
  have hplace : m.units * 10 ^ (-scale).toNat = s * (10 ^ (-scale).toNat * m.step) := by
    rw [hunits]
    ac_rfl
  have hunit : 0 < 10 ^ (-scale).toNat * m.step := Nat.mul_pos hden (Nat.two_pow_pos _)
  have hneighbours := grid_neighbours hunit
    (Nat.mul_pos unitsPerOne_pos (Nat.pow_pos (by decide))) hlt (hplace ▸ hfine)
    ((lowerQuarters_mul hunits hs (10 ^ (-scale).toNat)).imp And.right And.right)
    (m.upperQuarters_mul hunits (10 ^ (-scale).toNat))
  simp only [onGrid?, powerOfTen, hplace]
  rcases hneighbours with ⟨hlow, hhigh⟩ | ⟨hlow, hhigh⟩
  · rw [readsBack_of_lt hlow hhigh]
    split <;> first | exact ⟨_, rfl⟩ | simp_all
  · rw [readsBack_of_lt hlow hhigh]
    split <;> first | exact ⟨_, rfl⟩ | simp_all

/-! ### The search -/

/-- The search ends at a grid where something is found, if there is one. -/
theorem firstOnGrid_spec {point : Int} {counts : List Nat}
    (h : ∃ count ∈ counts, ∃ coefficient, m.onGrid? tie (point - count) = some coefficient) :
    ∃ count ∈ counts, ∃ coefficient, m.onGrid? tie (point - count) = some coefficient ∧
      m.firstOnGrid tie point counts = (coefficient, point - count) := by
  induction counts with
  | nil => simp at h
  | cons count counts ih =>
    rw [firstOnGrid]
    cases hgrid : m.onGrid? tie (point - count) with
    | some coefficient => exact ⟨count, List.mem_cons_self, coefficient, hgrid, rfl⟩
    | none =>
      obtain ⟨found, hfound, hsome⟩ := h
      rcases List.mem_cons.1 hfound with rfl | hmore
      · simp [hgrid] at hsome
      · obtain ⟨other, hother, hspec⟩ := ih ⟨found, hmore, hsome⟩
        exact ⟨other, List.mem_cons_of_mem _ hother, hspec⟩

/-- The interval around a number other than zero does not hold zero. -/
theorem ne_zero_of_readsBack (h : m.units ≠ 0) (hback : m.readsBack coefficient scale = true) :
    coefficient ≠ 0 := by
  rintro rfl
  have hunits := roundUnits_eq_of_isAround (Nat.pow_pos (by decide))
    (readsBack_iff_isAround.1 hback)
  rw [Nat.zero_mul, Nat.mul_zero] at hunits
  exact h (hunits.symm.trans (roundUnits_zero _))

/-- Decimals that read back are within the format. -/
theorem scale_le_of_readsBack (h : coefficient ≠ 0)
    (hback : m.readsBack coefficient scale = true) : scale ≤ 308 := by
  by_contra hscale
  have hunits := roundUnits_eq_of_isAround (Nat.pow_pos (by decide))
    (readsBack_iff_isAround.1 hback)
  have hnegative : (-scale).toNat = 0 := by omega
  rw [hnegative, Nat.pow_zero] at hunits
  have hoverflow : overflowUnits ≤ roundUnits
      (unitsPerOne * (coefficient * 10 ^ scale.toNat)) 1 := by
    rw [overflowUnits_le_roundUnits_iff _ Nat.one_pos, Nat.mul_one]
    refine Nat.mul_le_mul_left _ (Nat.le_trans (overflowLimit_le_ten_pow ?_)
      (Nat.le_mul_of_pos_left _ (Nat.pos_of_ne_zero h)))
    omega
  have hlt := m.representable.1
  omega

/-- The search finds a decimal of at most seventeen digits. -/
theorem exists_firstOnGrid (h : m.units ≠ 0) (tie : DecimalTie) :
    ∃ coefficient scale, m.firstOnGrid tie m.pointPlace (List.range' 1 17) = (coefficient, scale) ∧
      m.readsBack coefficient scale = true ∧ coefficient ≤ 10 ^ 17 ∧ -416 ≤ scale := by
  have hfine := (m.pointPlace_spec h (show 1 ≤ 17 by decide)).1
  have hlast : 17 ∈ List.range' 1 17 := by decide
  obtain ⟨count, hcount, coefficient, hgrid, hfirst⟩ :=
    firstOnGrid_spec ⟨17, hlast, exists_onGrid? h hfine⟩
  obtain ⟨hone, hmany⟩ : 1 ≤ count ∧ count ≤ 17 := by
    rw [List.mem_range'_1] at hcount
    omega
  obtain ⟨hback, hnext⟩ := readsBack_of_onGrid? hgrid
  refine ⟨coefficient, m.pointPlace - count, hfirst, hback, ?_, ?_⟩
  · have hgridPos : 0 < unitsPerOne * 10 ^ (m.pointPlace - count).toNat :=
      Nat.mul_pos unitsPerOne_pos (Nat.pow_pos (by decide))
    have hbelow := (Nat.div_lt_iff_lt_mul hgridPos).2 (m.pointPlace_spec h hone).2
    have hpower : 10 ^ count ≤ 10 ^ 17 := Nat.pow_le_pow_right (by decide) hmany
    omega
  · obtain ⟨shift, -, hshift, hpoint⟩ := m.exists_shift
    have hlength := Decimal.length_natural_pos (10 ^ shift * m.units / unitsPerOne)
    omega

/-! ### The shortest decimal -/

/-- Digits with a place of the point that are read as the number: at least one digit, no zero in
front unless it is the only digit, and a significand and an exponent of moderate size. -/
structure Writes (m : Magnitude) (digits : Text) (point : Int) : Prop where
  ne_nil : digits ≠ []
  isDigit : ∀ c ∈ digits, c.isDigit
  head : digits = ['0'] ∧ point = 1 ∨ digits.head? ≠ some '0'
  value_le : Nat.ofDigitChars 10 digits 0 ≤ 10 ^ 17
  point_ge : -500 ≤ point
  point_le : point ≤ 500
  readsBack : m.readsBack (Nat.ofDigitChars 10 digits 0) (point - digits.length) = true

/-- The shortest decimal of a number reads back. -/
theorem writes_shortest (m : Magnitude) (tie : DecimalTie) :
    m.Writes (m.shortest tie).1 (m.shortest tie).2 := by
  rw [shortest]
  split
  · rename_i hzero
    have hm : m = zero := by
      cases m
      simp only [zero, mk.injEq]
      exact hzero
    have hdigit : ∀ c ∈ ['0'], c.isDigit := fun c hc => by
      rw [List.mem_singleton.1 hc]
      rfl
    exact ⟨List.cons_ne_nil _ _, hdigit, .inl ⟨rfl, rfl⟩, by decide, by decide, by decide,
      hm ▸ readsBack_zero⟩
  · rename_i hne
    obtain ⟨coefficient, scale, hfirst, hback, hle, hscale⟩ := exists_firstOnGrid hne tie
    have hpos := ne_zero_of_readsBack hne hback
    have hmost := scale_le_of_readsBack hpos hback
    obtain ⟨digits, zeros, htrimmed, hlength, hnil, hhead, hdigits, hvalue⟩ :=
      Decimal.exists_trimmed hpos
    have hshort : (Decimal.natural coefficient).length ≤ 18 :=
      (Nat.length_toDigits_le_iff (by decide) (by decide)).2 (by omega)
    simp only [hfirst, htrimmed]
    refine ⟨hnil, hdigits, .inr hhead, ?_, ?_, ?_, ?_⟩
    · exact Nat.le_trans (hvalue ▸ Nat.le_mul_of_pos_right _ (Nat.pow_pos (by decide))) hle
    · omega
    · omega
    · have hplace : ((Decimal.natural coefficient).length : Int) + scale - digits.length =
          scale + zeros := by omega
      rw [hplace, ← readsBack_mul_ten_pow, ← hvalue]
      exact hback

end Magnitude

end ThresholdCheck
