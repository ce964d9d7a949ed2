import EntityMapper.Binary64.Basic

/-!
# The nearest double

Of a decimal `coefficient · 10 ^ scale` the double that lies nearest, and of two that lie equally
near the one whose last bit is zero. The decimal is held as an exact fraction of natural numbers
throughout, so nothing is rounded twice.
-/

namespace EntityMapper.Binary64

/-- `numerator / denominator` to the nearest integer, a half to the even neighbour. -/
def roundDiv (numerator denominator : Nat) : Nat :=
  let quotient := numerator / denominator
  let twice := 2 * (numerator % denominator)
  if twice < denominator then quotient
  else if denominator < twice then quotient + 1
  else quotient + quotient % 2

/-- The greatest `e` with `2 ^ e ≤ numerator / denominator`, both being positive. -/
def binaryExponent (numerator denominator : Nat) : Int :=
  -- the difference of the logarithms is `e` or one more
  let e : Int := (numerator.log2 : Int) - denominator.log2
  if numerator * Nat.pow 2 (-e).toNat < denominator * Nat.pow 2 e.toNat then e - 1 else e

/-- The lower 63 bits of the double nearest to a positive fraction. A significand that is rounded up
to the next power of two carries into the exponent by itself. -/
def nearestMagnitude (numerator denominator : Nat) : Nat :=
  -- the weight of the last bit, which cannot be less than that of the least double
  let q := max (binaryExponent numerator denominator - 52) (-1074)
  let m := roundDiv (numerator * Nat.pow 2 (-q).toNat) (denominator * Nat.pow 2 q.toNat)
  if m < Nat.pow 2 52 then m else min ((q + 1074).toNat * Nat.pow 2 52 + m) infinityMagnitude

/-- The double nearest to `± coefficient · 10 ^ scale`. Decimals far beyond the range are decided by
their number of digits alone. -/
def ofDecimal (negative : Bool) (coefficient : Nat) (scale : Int) : Binary64 :=
  if coefficient == 0 then ofSignAndMagnitude negative 0
  else
    let size := scale + (Nat.toDigits 10 coefficient).length
    if size < -400 then ofSignAndMagnitude negative 0
    else if 400 < size then ofSignAndMagnitude negative infinityMagnitude
    else ofSignAndMagnitude negative
      (nearestMagnitude (coefficient * Nat.pow 10 scale.toNat) (Nat.pow 10 (-scale).toNat))

def ofInt (n : Int) : Binary64 := ofDecimal (n < 0) n.natAbs 0

end EntityMapper.Binary64
