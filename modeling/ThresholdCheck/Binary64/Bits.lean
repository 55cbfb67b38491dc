import ThresholdCheck.Binary64.Basic

/-!
# The interchange format

One sign bit, eleven bits of exponent and 52 bits of fraction. An exponent field of zero and one of
one have the same unit, so that the finite numbers are `significand * 2 ^ (exponent - 1)` units.

## Main definitions

* `Binary64.ofBits`, `Binary64.toBits` — from and to 64 bits; NaN is written quiet and positive
-/

namespace ThresholdCheck

/- Powers of natural numbers are the core library's, whatever else is loaded. -/
attribute [local instance (2000)] instPowNat

namespace Magnitude

/-- The magnitude with the given exponent and fraction fields; those of an infinity or a NaN give
the largest. -/
def ofFields (exponent fraction : Nat) : Magnitude :=
  if _ : exponent = 0 then
    ⟨fraction % 2 ^ (52 : Nat) * 2 ^ (0 : Nat),
      representable_mul_two_pow (by have := Nat.mod_lt fraction (Nat.two_pow_pos 52); omega)
        (by decide)⟩
  else
    ⟨(2 ^ (52 : Nat) + fraction % 2 ^ (52 : Nat)) * 2 ^ (min exponent 2046 - 1),
      representable_mul_two_pow (by have := Nat.mod_lt fraction (Nat.two_pow_pos 52); omega)
        (by omega)⟩

/-- The exponent and fraction fields, as one number of 63 bits. -/
def toFields (m : Magnitude) : Nat :=
  if m.units < 2 ^ (52 : Nat) then m.units
  else
    let shift := m.units.log2 - 52
    (shift + 1) * 2 ^ (52 : Nat) + (m.units / 2 ^ shift - 2 ^ (52 : Nat))

end Magnitude

namespace Binary64

/-- The number with the given 64 bits. -/
def ofBits (bits : Nat) : Binary64 :=
  let negative := bits / 2 ^ (63 : Nat) % 2 = 1
  let exponent := bits / 2 ^ (52 : Nat) % 2 ^ (11 : Nat)
  let fraction := bits % 2 ^ (52 : Nat)
  if exponent = 2047 then
    if fraction = 0 then infinite negative else nan
  else finite negative (Magnitude.ofFields exponent fraction)

/-- The 64 bits of a number. -/
def toBits : Binary64 → Nat
  | nan => 0x7ff8000000000000
  | infinite negative => (if negative then 2 ^ (63 : Nat) else 0) + 0x7ff0000000000000
  | finite negative m => (if negative then 2 ^ (63 : Nat) else 0) + m.toFields

end Binary64

end ThresholdCheck
