import ThresholdCheck.Proofs.Decimal.Number
import ThresholdCheck.Proofs.Range.Overflow

/-!
# What a text gives as a bound

A bound is empty, a tilde, an infinity that is spelled out, a NaN, a decimal that the format has
room for, a decimal that it has not, or none of these; and this tells what is read. The reader
knows an overflow from what the text is, before there is a value. It can as well be known
afterwards, from an infinite value of a text that does not spell one: a name behind any number of
signs does not let a decimal through, since a decimal has a digit or a point where a name has its
first letter.

## Main definitions

* `BoundReading` — a text with what it gives as a bound
* `readBoundByValue` — a bound with the overflow known from its value

## Main results

* `readBound_of_boundReading`, `exists_boundReading` — every text gives one thing, which is read
* `readBound_eq_byValue` — the overflow can be known from the value
* `readBound_eq_iff_boundReading` — the headline
-/

namespace ThresholdCheck

open Binary64 (finite infinite)

/-- A text with what it gives as a bound. -/
inductive BoundReading : Text → Except RangeError Binary64 → Prop
  | empty : BoundReading [] (.error .emptyValue)
  | tilde : BoundReading ['~'] (.ok .negInf)
  | infinity {t : Text} {negative : Bool} (h : t.IsInfinityName negative) :
      BoundReading t (.ok (infinite negative))
  | nan {t : Text} (h : t.IsNanName) : BoundReading t (.ok .nan)
  /-- The nearest number, with the sign of the text also if it is zero. -/
  | decimal {t : Text} {negative : Bool} {q : ℚ} {m : Magnitude} (h : t.IsDecimal negative q)
      (hlt : |q| < overflowLimit) (hnearest : (finite negative m).IsNearest q) :
      BoundReading t (.ok (finite negative m))
  | overflow {t : Text} {negative : Bool} {q : ℚ} (h : t.IsDecimal negative q)
      (hle : overflowLimit ≤ |q|) : BoundReading t (.error (.outOfRange t))
  | other {t : Text} (hempty : t ≠ []) (htilde : t ≠ ['~'])
      (hinfinity : ∀ negative, ¬ t.IsInfinityName negative) (hnan : ¬ t.IsNanName)
      (hdecimal : ∀ negative q, ¬ t.IsDecimal negative q) :
      BoundReading t (.error (.notANumber t))

variable {t : Text} {negative : Bool} {q : ℚ}

/-! ### Each text gives what is read -/

/-- A number is neither empty nor a tilde. -/
theorem ne_of_read?_eq_some {numeral : Numeral} (h : Numeral.read? t = some numeral) :
    t.isEmpty = false ∧ t ≠ ['~'] := by
  constructor
  · cases t with
    | nil => cases (show Numeral.read? [] = none by decide).symm.trans h
    | cons c t => rfl
  · rintro rfl
    cases (show Numeral.read? ['~'] = none by decide).symm.trans h

theorem readBound_of_boundReading {result : Except RangeError Binary64}
    (h : BoundReading t result) : readBound t = result := by
  cases h with
  | empty => rfl
  | tilde => rfl
  | infinity h =>
    have hread := Numeral.read?_eq_infinity_iff.2 h
    obtain ⟨hempty, htilde⟩ := ne_of_read?_eq_some hread
    simp [readBound, hempty, htilde, hread, Numeral.value]
  | nan h =>
    have hread := Numeral.read?_eq_nan_iff.2 h
    obtain ⟨hempty, htilde⟩ := ne_of_read?_eq_some hread
    simp [readBound, hempty, htilde, hread, Numeral.value]
  | @decimal _ negative _ m h hlt hnearest =>
    obtain ⟨coefficient, scale, hread, -, hfinite⟩ := h.exists_numeral
    obtain ⟨hempty, htilde⟩ := ne_of_read?_eq_some hread
    have hvalue := (hfinite m).2 ⟨hlt, hnearest⟩
    simp [readBound, hempty, htilde, hread, hvalue, Binary64.isInfinite]
  | overflow h hle =>
    obtain ⟨coefficient, scale, hread, rfl⟩ := Text.isDecimal_iff.1 h
    rw [abs_decimal] at hle
    exact readBound_eq_outOfRange_iff.2 ⟨rfl, _, coefficient, scale, hread, hle⟩
  | other hempty htilde hinfinity hnan hdecimal =>
    have hread : Numeral.read? t = none := by
      refine Option.eq_none_iff_forall_ne_some.2 fun numeral hnumeral => ?_
      rcases Text.isNumber_iff.2 ⟨numeral, hnumeral⟩ with ⟨negative, q, h⟩ | ⟨negative, h⟩ | h
      · exact hdecimal negative q h
      · exact hinfinity negative h
      · exact hnan h
    simp [readBound, hempty, htilde, hread]

/-! ### Every text gives something -/

/-- A decimal gives the nearest number, or it overflows. -/
theorem Text.IsDecimal.boundReading (h : t.IsDecimal negative q) :
    (∃ m, (finite negative m).IsNearest q ∧ BoundReading t (.ok (finite negative m))) ∨
      BoundReading t (.error (.outOfRange t)) := by
  rcases h.overflow_or_nearest with hle | ⟨m, hlt, hnearest⟩
  · exact .inr (.overflow h hle)
  · exact .inl ⟨m, hnearest, .decimal h hlt hnearest⟩

theorem exists_boundReading (t : Text) : ∃ result, BoundReading t result := by
  by_cases hempty : t = []
  · subst hempty
    exact ⟨_, .empty⟩
  · by_cases htilde : t = ['~']
    · subst htilde
      exact ⟨_, .tilde⟩
    · by_cases hnumber : t.IsNumber
      · rcases hnumber with ⟨negative, q, h⟩ | ⟨negative, h⟩ | h
        · rcases h.boundReading with ⟨m, -, hreading⟩ | hreading
          · exact ⟨_, hreading⟩
          · exact ⟨_, hreading⟩
        · exact ⟨_, .infinity h⟩
        · exact ⟨_, .nan h⟩
      · simp only [Text.IsNumber, not_or, not_exists] at hnumber
        obtain ⟨hdecimal, hinfinity, hnan⟩ := hnumber
        exact ⟨_, .other hempty htilde hinfinity hnan hdecimal⟩

theorem readBound_eq_iff {result : Except RangeError Binary64} :
    readBound t = result ↔ BoundReading t result := by
  constructor
  · rintro rfl
    obtain ⟨result, h⟩ := exists_boundReading t
    rwa [readBound_of_boundReading h]
  · exact readBound_of_boundReading

/-! ### Infinite bounds -/

/-- Only a tilde and the names of an infinity give an infinite bound. -/
theorem isInfinite_iff_of_readBound {x : Binary64} (h : readBound t = .ok x) :
    x.isInfinite = true ↔ t = ['~'] ∨ ∃ negative, t.IsInfinityName negative := by
  constructor
  · intro hinfinite
    cases readBound_eq_iff.1 h with
    | tilde => exact .inl rfl
    | infinity hname => exact .inr ⟨_, hname⟩
    | nan => cases hinfinite
    | decimal => cases hinfinite
  · rintro (rfl | ⟨negative, hname⟩)
    · cases h
      rfl
    · cases (readBound_of_boundReading (.infinity hname)).symm.trans h
      rfl

/-! ### Overflow known from the value -/

/-- Whether the text has the name of an infinity behind any number of signs. -/
def spellsInfinity (t : Text) : Bool :=
  let name := (t.dropWhile fun c => c = '+' || c = '-').map Char.toLower
  name = "inf".toList || name = "infinity".toList

/-- One bound. A value that is infinite is refused, unless the text spells an infinity. -/
def readBoundByValue (t : Text) : Except RangeError Binary64 :=
  if t.isEmpty then .error .emptyValue
  else if t = ['~'] then .ok .negInf
  else
    match Binary64.read? t with
    | none => .error (.notANumber t)
    | some value =>
      if value.isInfinite && !spellsInfinity t then .error (.outOfRange t) else .ok value

theorem spellsInfinity_append {sign body : Text} (hsign : IsSign sign negative)
    (hbody : ∀ c ∈ body.head?, c ≠ '-' ∧ c ≠ '+') :
    spellsInfinity (sign ++ body) = true ↔
      body.map Char.toLower = "inf".toList ∨ body.map Char.toLower = "infinity".toList := by
  have hdrop : (sign ++ body).dropWhile (fun c => c = '+' || c = '-') = body := by
    have hstop : body.dropWhile (fun c => c = '+' || c = '-') = body := by
      cases body with
      | nil => rfl
      | cons c body => simp [hbody c rfl]
    cases hsign with
    | none => exact hstop
    | plus => exact hstop
    | minus => exact hstop
  simp [spellsInfinity, hdrop]

theorem spellsInfinity_of_isInfinityName (h : t.IsInfinityName negative) :
    spellsInfinity t = true := by
  obtain ⟨hsign, hname⟩ := h
  exact (spellsInfinity_append hsign (ne_sign_of_infinity hname)).2 hname

theorem spellsInfinity_of_isDecimal (h : t.IsDecimal negative q) : spellsInfinity t = false := by
  obtain ⟨hsign, hbody⟩ := h
  have hname := hbody.map_toLower_ne
  rw [Bool.eq_false_iff, ne_eq, spellsInfinity_append hsign hbody.ne_sign]
  exact not_or.2 ⟨hname _ (by decide), hname _ (by decide)⟩

/-- No decimal that overflows spells an infinity, and every infinity does. -/
theorem readBound_eq_byValue (t : Text) : readBound t = readBoundByValue t := by
  rw [readBound, readBoundByValue]
  cases hread : Numeral.read? t with
  | none => simp only [Binary64.read?, hread, Option.map_none]
  | some numeral =>
    simp only [Binary64.read?, hread, Option.map_some]
    cases numeral with
    | nan => simp [Numeral.value, Binary64.isInfinite]
    | infinity negative =>
      simp [spellsInfinity_of_isInfinityName (Numeral.read?_eq_infinity_iff.1 hread)]
    | decimal negative coefficient scale =>
      have hdecimal := Text.isDecimal_iff.2 ⟨coefficient, scale, hread, rfl⟩
      simp [Numeral.value, spellsInfinity_of_isDecimal hdecimal]

/-! ### The headline -/

/-- **Every text gives what its shape says.** A bound is read, or refused, as the text is empty, a
tilde, the name of an infinity or of a NaN, a decimal below the limit or from it on, or none of
these; a decimal below the limit gives the number that is nearest to its exact value. An infinite
bound is a tilde or has a name. And all this is as if the value were computed first, and refused if
it is infinite without being spelled so. -/
theorem readBound_eq_iff_boundReading (t : Text) :
    (∀ result, readBound t = result ↔ BoundReading t result) ∧
      (∀ x, readBound t = .ok x →
        (x.isInfinite = true ↔ t = ['~'] ∨ ∃ negative, t.IsInfinityName negative)) ∧
      readBound t = readBoundByValue t :=
  ⟨fun _ => readBound_eq_iff, fun _ => isInfinite_iff_of_readBound, readBound_eq_byValue t⟩

-- The limit lies between the next two decimals, which differ in their last digit.
example : (readBound "1.797693134862315807e308".toList).toOption.map Binary64.isFinite =
    some true := by
  decide +kernel

example : readBound "1.797693134862315808e308".toList =
    .error (.outOfRange "1.797693134862315808e308".toList) := by
  decide +kernel

end ThresholdCheck
