/-!
# Binary64 values and exact ratios

A finite binary64 value is an integer times a power of two. This module goes both ways: `parts`
reads a value as such a product, and **`nearest`** gives the value nearest to a ratio of natural
numbers, a tie going to the even significand. All rounding is done on natural numbers, so what is
computed can be computed again in a proof.
-/

namespace LogWatch

namespace Binary64

/-- The quotient rounded to the nearest natural number, a tie going to the even one. -/
def roundDiv (num den : Nat) : Nat :=
  let q := num / den
  let r := num % den
  if 2 * r < den then q
  else if den < 2 * r then q + 1
  else if q % 2 = 0 then q else q + 1

/-- The sign bit is set. -/
def isNegative (x : Float) : Bool := Nat.pow 2 63 ≤ x.toBits.toNat

/-- The significand and exponent of the magnitude of a finite value: the value is the first times
two to the power of the second. -/
def parts (x : Float) : Nat × Int :=
  let bits := x.toBits.toNat
  let fraction : Nat := bits % Nat.pow 2 52
  let field : Nat := bits / Nat.pow 2 52 % Nat.pow 2 11
  if field = 0 then (fraction, -1074) else (Nat.pow 2 52 + fraction, (field : Int) - 1075)

/-- The bits of the value nearest to `num / den`, for a positive `den`. -/
def nearestBits (num den : Nat) : Nat :=
  if num = 0 then 0
  else
    -- the quotient lies between `2 ^ (guess - 1)` and `2 ^ (guess + 1)`
    let guess : Int := (Nat.log2 num : Int) - Nat.log2 den
    let below (e : Int) : Bool :=
      if 0 ≤ e then num < den * Nat.pow 2 e.toNat else num * Nat.pow 2 (-e).toNat < den
    let top : Int := if below guess then guess - 1 else guess
    -- the exponent of the last place
    let place : Int := max (top - 52) (-1074)
    let significand :=
      if 0 ≤ place then roundDiv num (den * Nat.pow 2 place.toNat)
      else roundDiv (num * Nat.pow 2 (-place).toNat) den
    -- rounding up to the next power of two carries into the exponent field
    let bits :=
      if significand < Nat.pow 2 52 then significand
      else (place + 1074).toNat * Nat.pow 2 52 + significand
    min bits 0x7FF0000000000000

/-- The value nearest to `num / den`, for a positive `den`; infinity beyond the largest. -/
def nearest (num den : Nat) : Float := Float.ofBits (nearestBits num den).toUInt64

/-- The value nearest to `digits * 10 ^ exponent`. -/
def ofDecimal (digits : Nat) (exponent : Int) : Float :=
  if 0 ≤ exponent then nearest (digits * Nat.pow 10 exponent.toNat) 1
  else nearest digits (Nat.pow 10 (-exponent).toNat)

/-- The value nearest to a natural number. -/
def ofNat (n : Nat) : Float := nearest n 1

/-- The value nearest to an integer. -/
def ofInt (n : Int) : Float := if n < 0 then -ofNat n.natAbs else ofNat n.natAbs

end Binary64

end LogWatch
