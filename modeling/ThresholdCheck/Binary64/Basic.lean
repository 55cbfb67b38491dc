/-!
# Binary floating point numbers of 64 bits

Every finite number of this format is a whole multiple of `2 ^ (-1074)`. A magnitude is therefore
kept as a natural number of such units, and comparing two numbers is comparing two integers. Which
counts occur is said by `Representable`: at most 53 significant bits, and below the largest
exponent.

## Main definitions

* `Representable` — the counts of units that the format can hold
* `Magnitude`, `Binary64` — the numbers, with one NaN
* `Binary64.place` — where a number lies on the line, counted in units
* `Binary64.lt`, `Binary64.le` — the order, false whenever a NaN takes part

## Main results

* `representable_mul_two_pow` — 53 bits times a power of two are representable
-/

namespace ThresholdCheck

/- Powers of natural numbers are the core library's, whatever else is loaded. -/
attribute [local instance (2000)] instPowNat

/-- The unit is two to the minus this. -/
def unitExponent : Nat := 1074

/-- The number of units in one. -/
@[irreducible] def unitsPerOne : Nat := 2 ^ unitExponent

/-- The first count of units beyond the finite numbers, that of `2 ^ 1024`. -/
@[irreducible] def overflowUnits : Nat := 2 ^ (unitExponent + 1024)

theorem unitsPerOne_eq : unitsPerOne = 2 ^ unitExponent := by
  unfold unitsPerOne
  rfl

theorem overflowUnits_eq : overflowUnits = 2 ^ (unitExponent + 1024) := by
  unfold overflowUnits
  rfl

/-- A count of units that is a finite number: its bits below the leading 53 are zero. -/
def Representable (n : Nat) : Prop := n < overflowUnits ∧ 2 ^ (n.log2 - 52) ∣ n

instance (n : Nat) : Decidable (Representable n) := by
  unfold Representable
  infer_instance

theorem unitsPerOne_pos : 0 < unitsPerOne := by
  rw [unitsPerOne_eq]
  exact Nat.two_pow_pos _

theorem overflowUnits_pos : 0 < overflowUnits := by
  rw [overflowUnits_eq]
  exact Nat.two_pow_pos _

theorem representable_zero : Representable 0 := ⟨overflowUnits_pos, Nat.dvd_zero _⟩

/-- A significand of at most 53 bits, moved to any exponent of the format. -/
theorem representable_mul_two_pow {m k : Nat} (hm : m < 2 ^ (53 : Nat)) (hk : k ≤ 2045) :
    Representable (m * 2 ^ k) := by
  have hlt : m * 2 ^ k < 2 ^ (53 + k) := by
    rw [Nat.pow_add]
    exact (Nat.mul_lt_mul_right (Nat.two_pow_pos k)).2 hm
  refine ⟨?_, ?_⟩
  · rw [overflowUnits_eq]
    exact Nat.lt_of_lt_of_le hlt (Nat.pow_le_pow_right (by decide) (by rw [unitExponent]; omega))
  · rcases Nat.eq_zero_or_pos (m * 2 ^ k) with h | h
    · rw [h]
      exact Nat.dvd_zero _
    · have hlog : (m * 2 ^ k).log2 < 53 + k := (Nat.log2_lt (by omega)).2 hlt
      exact Nat.dvd_trans (Nat.pow_dvd_pow 2 (by omega)) (Nat.dvd_mul_left ..)

/-- The size of a finite number, in units of `2 ^ (-1074)`. -/
structure Magnitude where
  units : Nat
  representable : Representable units
deriving DecidableEq

namespace Magnitude

/-- The magnitude of the two zeros. -/
def zero : Magnitude := ⟨0, representable_zero⟩

instance : Inhabited Magnitude := ⟨zero⟩

/-- Whether the magnitude is a whole number. -/
def isWhole (m : Magnitude) : Bool := m.units % unitsPerOne = 0

/-- The whole part of the magnitude. -/
def whole (m : Magnitude) : Nat := m.units / unitsPerOne

theorem isWhole_iff {m : Magnitude} : m.isWhole ↔ m.units = unitsPerOne * m.whole := by
  have := Nat.div_add_mod m.units unitsPerOne
  simp only [isWhole, whole, decide_eq_true_eq]
  omega

end Magnitude

/-- A number of the format. NaN payloads and their signs are not told apart. -/
inductive Binary64 where
  | nan
  | infinite (negative : Bool)
  | finite (negative : Bool) (magnitude : Magnitude)
deriving DecidableEq

namespace Binary64

instance : Inhabited Binary64 := ⟨nan⟩

/-- Zero with a sign. -/
def zero (negative : Bool) : Binary64 := finite negative Magnitude.zero

/-- Positive infinity. -/
abbrev posInf : Binary64 := infinite false

/-- Negative infinity. -/
abbrev negInf : Binary64 := infinite true

/-- Whether the number is one of the two infinities. -/
def isInfinite : Binary64 → Bool
  | infinite _ => true
  | _ => false

/-! ### Order -/

/-- A count with a sign. -/
def signed (negative : Bool) (n : Nat) : Int := if negative then -(n : Int) else n

/-- Where the number lies on the line, in units: infinities lie just beyond the finite numbers, the
two zeros lie together, and a NaN lies nowhere. -/
def place : Binary64 → Option Int
  | nan => none
  | infinite negative => some (signed negative overflowUnits)
  | finite negative m => some (signed negative m.units)

/-- Strictly less; false if one side is a NaN. -/
def lt (x y : Binary64) : Bool :=
  match x.place, y.place with
  | some a, some b => a < b
  | _, _ => false

/-- Less or equal; false if one side is a NaN. -/
def le (x y : Binary64) : Bool :=
  match x.place, y.place with
  | some a, some b => a ≤ b
  | _, _ => false

theorem lt_nan (x : Binary64) : lt x nan = false := by
  cases x <;> simp [lt, place]

theorem nan_lt (x : Binary64) : lt nan x = false := by
  cases x <;> simp [lt, place]

theorem le_nan (x : Binary64) : le x nan = false := by
  cases x <;> simp [le, place]

theorem nan_le (x : Binary64) : le nan x = false := by
  cases x <;> simp [le, place]

/-- Without a NaN the order is total. -/
theorem le_eq_not_lt {x y : Binary64} (hx : x ≠ nan) (hy : y ≠ nan) : le x y = !lt y x := by
  cases x <;> cases y <;> simp_all [le, lt, place] <;> grind

end Binary64

end ThresholdCheck
