/-!
# Double precision numbers

A number of the binary interchange format with 64 bits is held as its bits, so that two of them are
equal exactly if they are the same pattern: the two zeros differ, and a pattern that is no number
equals itself. A finite pattern stands for `significand · 2 ^ exponent`, with the sign kept apart.
-/

namespace EntityMapper

/-- A number of the 64-bit binary interchange format. -/
structure Binary64 where
  /-- Sign, eleven bits of exponent, 52 bits of fraction. -/
  bits : UInt64
deriving DecidableEq, Repr

namespace Binary64

def isNegative (x : Binary64) : Bool := x.bits.toNat / Nat.pow 2 63 == 1

def exponentField (x : Binary64) : Nat := x.bits.toNat / Nat.pow 2 52 % Nat.pow 2 11

def fraction (x : Binary64) : Nat := x.bits.toNat % Nat.pow 2 52

/-- Neither an infinity nor a pattern that is no number. -/
def isFinite (x : Binary64) : Bool := x.exponentField != 2047

/-- The integer of which a finite number is a power-of-two multiple. Subnormal numbers lack the
leading bit that the others have. -/
def significand (x : Binary64) : Nat :=
  if x.exponentField == 0 then x.fraction else Nat.pow 2 52 + x.fraction

/-- The power of two that goes with `significand`. -/
def exponent (x : Binary64) : Int :=
  if x.exponentField == 0 then -1074 else (x.exponentField : Int) - 1075

def ofSignAndMagnitude (negative : Bool) (magnitude : Nat) : Binary64 :=
  ⟨UInt64.ofNat ((if negative then Nat.pow 2 63 else 0) + magnitude)⟩

/-- The lower 63 bits of an infinity. -/
def infinityMagnitude : Nat := 2047 * Nat.pow 2 52

end Binary64

end EntityMapper
