import EntityMapper.Binary64.Nearest
import Mathlib.Tactic.Ring

/-!
# Integers as doubles

A double has 53 bits for an integer, so of the integers with 64 bits it holds the multiples of `2 ^
11` and no others. Any other is held as the nearest of these.

## Structure

* `ofFields` — a double put together of its exponent and its fraction; the lemmas on its bits say
  that both are found again, so a double can be judged by the two numbers (`isInteger_ofFields`).
* `roundDiv_mul_eq_self_iff` — a rounded quotient gives back what was divided just if the division
  is exact. This is where the multiples of a power of two come from.
* `nearestMagnitude_long` — of an integer with 64 bits, the magnitude is the rounded quotient by `2
  ^ 11`, unless rounding carries into the next power of two (`isInteger_carried`).
* `isInteger_ofInt_iff` — both cases together, for all integers of that length.
-/

namespace EntityMapper.Binary64

/-- A double is exactly this integer. -/
def IsInteger (x : Binary64) (n : Int) : Prop :=
  x.isFinite = true
    ∧ (if x.isNegative then -1 else 1) * (x.significand : Int) * 2 ^ x.exponent.toNat
    = n * 2 ^ (-x.exponent).toNat

/-- A double is at most one integer: `IsInteger` compares two products with the same power of two,
which cancels. -/
theorem IsInteger.unique {x : Binary64} {m n : Int} (hm : x.IsInteger m)
    (hn : x.IsInteger n) : m = n := by
  have hpow : (2 : Int) ^ (-x.exponent).toNat ≠ 0 := Int.pow_ne_zero (by decide)
  exact Int.eq_of_mul_eq_mul_right hpow (hm.2.symm.trans hn.2)

/-! ## Bits

The fields of a positive double, put together and taken apart. A double whose exponent field is at
least 1075 is an integer that can be written down (`isInteger_ofFields`). -/

section Bits

variable {field rest : Nat}

/-- A positive double by its fields. -/
def ofFields (field rest : Nat) : Binary64 := ofSignAndMagnitude false (field * Nat.pow 2 52 + rest)

/-- The fields of `ofFields` lie side by side and fit into 64 bits, so nothing of them is cut off.
-/
theorem toNat_bits_ofFields (hfield : field < 2 ^ 11) (hrest : rest < 2 ^ 52) :
    (ofFields field rest).bits.toNat = field * 2 ^ 52 + rest := by
  have hlt : field * 2 ^ 52 + rest < 2 ^ 64 := by omega
  show (UInt64.ofNat (0 + (field * 2 ^ 52 + rest))).toNat = field * 2 ^ 52 + rest
  rw [Nat.zero_add, UInt64.toNat_ofNat_of_lt' hlt]

/-- The exponent field comes back: it is what is above the lower 52 bits. -/
theorem exponentField_ofFields (hfield : field < 2 ^ 11) (hrest : rest < 2 ^ 52) :
    (ofFields field rest).exponentField = field := by
  unfold exponentField
  rw [toNat_bits_ofFields hfield hrest, Nat.pow_eq, Nat.pow_eq]
  omega

theorem fraction_ofFields (hfield : field < 2 ^ 11) (hrest : rest < 2 ^ 52) :
    (ofFields field rest).fraction = rest := by
  unfold fraction
  rw [toNat_bits_ofFields hfield hrest, Nat.pow_eq]
  omega

theorem isNegative_ofFields (hfield : field < 2 ^ 11) (hrest : rest < 2 ^ 52) :
    (ofFields field rest).isNegative = false := by
  have hquotient : (field * 2 ^ 52 + rest) / 2 ^ 63 = 0 := by omega
  unfold isNegative
  rw [toNat_bits_ofFields hfield hrest, Nat.pow_eq, hquotient]
  rfl

/-- The double of a significand with its leading bit and of a power of two. The exponent field is at
least 1075, so the double is normal and its `exponent` is not negative; both powers in `IsInteger`
are then explicit. -/
theorem isInteger_ofFields (q rest : Nat) (hq : q < 972) (hrest : rest < 2 ^ 52) :
    (ofFields (q + 1075) rest).IsInteger ((2 ^ 52 + rest) * 2 ^ q : Nat) := by
  have hfield : q + 1075 < 2 ^ 11 := by omega
  have hexponentField := exponentField_ofFields hfield hrest
  -- the exponent is that of a normal double, so the leading bit is implied
  have hnormal : ¬ (q + 1075 == 0) = true := by simp
  have hsignificand : (ofFields (q + 1075) rest).significand = 2 ^ 52 + rest := by
    unfold significand
    rw [hexponentField, fraction_ofFields hfield hrest, if_neg hnormal, Nat.pow_eq]
  have hexponent : (ofFields (q + 1075) rest).exponent = q := by
    unfold exponent
    rw [hexponentField, if_neg hnormal]
    omega
  constructor
  · unfold isFinite
    rw [hexponentField, bne_iff_ne]
    omega
  · rw [isNegative_ofFields hfield hrest, hsignificand, hexponent, Int.toNat_natCast,
      Int.toNat_neg_natCast]
    push_cast
    ring

/-- A significand that was rounded up to the next power of two carries into the exponent. Below `2 ^
53` the significand keeps its leading bit and `isInteger_ofFields` applies as it is; at `2 ^ 53` it
applies to the next exponent, with a fraction of zero. -/
theorem isInteger_carried {q m : Nat} (hq : q < 971) (hmin : 2 ^ 52 ≤ m) (hmax : m ≤ 2 ^ 53) :
    (ofSignAndMagnitude false ((q + 1074) * Nat.pow 2 52 + m)).IsInteger (m * 2 ^ q : Nat) := by
  -- the leading bit is `2 ^ 52`, so it is taken off for the fraction, or it has moved on
  rcases Nat.lt_or_eq_of_le hmax with hlt | rfl
  · have hfields : (q + 1074) * Nat.pow 2 52 + m = (q + 1075) * Nat.pow 2 52 + (m - 2 ^ 52) := by
      rw [Nat.pow_eq]
      omega
    have hinteger := isInteger_ofFields q (m - 2 ^ 52) (by omega) (by omega)
    rw [Nat.add_sub_cancel' hmin] at hinteger
    rw [hfields]
    exact hinteger
  · have hfields : (q + 1074) * Nat.pow 2 52 + 2 ^ 53 = (q + 1 + 1075) * Nat.pow 2 52 + 0 := by
      rw [Nat.pow_eq]
      omega
    have hinteger := isInteger_ofFields (q + 1) 0 (by omega) (by omega)
    have hvalue : (2 ^ 52 + 0) * 2 ^ (q + 1) = 2 ^ 53 * 2 ^ q := by ring
    rw [hvalue] at hinteger
    rw [hfields]
    exact hinteger

end Bits

/-! ## Rounding

How an integer of 64 bits comes to its double: its last 11 bits are rounded away by `roundDiv`. What
is left has 53 bits, or is `2 ^ 53` if rounding carried. -/

/-- Rounding to a multiple changes nothing just if there is nothing to round. -/
theorem roundDiv_mul_eq_self_iff {d : Nat} (hd : 0 < d) (n : Nat) :
    roundDiv n d * d = n ↔ d ∣ n := by
  constructor
  · intro h
    exact ⟨roundDiv n d, by rw [Nat.mul_comm]; exact h.symm⟩
  · -- a multiple leaves no remainder, and what has none is not rounded up
    rintro ⟨k, rfl⟩
    have hquotient : d * k / d = k := Nat.mul_div_cancel_left k hd
    have hremainder : d * k % d = 0 := Nat.mul_mod_right d k
    unfold roundDiv
    rw [hquotient, hremainder, if_pos (by omega), Nat.mul_comm]

/-- `roundDiv` gives the quotient or the number after it (`roundDiv_le`), whichever way the
remainder sends it. -/
theorem div_le_roundDiv (n d : Nat) : n / d ≤ roundDiv n d := by
  unfold roundDiv
  dsimp only
  split
  · exact Nat.le_refl _
  · split <;> omega

theorem roundDiv_le (n d : Nat) : roundDiv n d ≤ n / d + 1 := by
  unfold roundDiv
  dsimp only
  split
  · omega
  · split <;> omega

/-- An integer of 64 bits is rounded to a multiple of `2 ^ 11`. Its binary exponent is 63, so the
fraction that `nearestMagnitude` rounds has `2 ^ 11` for its denominator, and the result stays far
below infinity. -/
theorem nearestMagnitude_long {n : Nat} (hmin : 2 ^ 63 ≤ n) (hmax : n < 2 ^ 64) :
    nearestMagnitude n 1 = (11 + 1074) * Nat.pow 2 52 + roundDiv n (2 ^ 11) := by
  have hlog : n.log2 = 63 := (Nat.log2_eq_iff (by omega)).mpr ⟨hmin, hmax⟩
  have hone : Nat.log2 1 = 0 := rfl
  -- both logarithms are known, and the first guess of the exponent is the right one
  have hexponent : binaryExponent n 1 = 63 := by
    unfold binaryExponent
    rw [hlog, hone]
    exact if_neg (by simp [Nat.pow_eq]; omega)
  have hnumerator : n * Nat.pow 2 (-(max ((63 : Int) - 52) (-1074))).toNat = n := Nat.mul_one n
  have hdenominator : 1 * Nat.pow 2 (max ((63 : Int) - 52) (-1074)).toNat = 2 ^ 11 := rfl
  have hweight : (max ((63 : Int) - 52) (-1074) + 1074).toNat = 11 + 1074 := rfl
  have hleast := div_le_roundDiv n (2 ^ 11)
  have hgreatest := roundDiv_le n (2 ^ 11)
  unfold nearestMagnitude
  dsimp only
  rw [hexponent, hnumerator, hdenominator, hweight, if_neg (by rw [Nat.pow_eq]; omega)]
  -- the largest possible value is still less than infinity
  apply Nat.min_eq_left
  unfold infinityMagnitude
  rw [Nat.pow_eq]
  omega

/-- `ofInt` goes by decimal digits; of a number below `2 ^ 64` there are few enough for the ordinary
path. -/
theorem ofInt_long {n : Nat} (hmin : 2 ^ 63 ≤ n) (hmax : n < 2 ^ 64) :
    ofInt n = ofSignAndMagnitude false ((11 + 1074) * Nat.pow 2 52 + roundDiv n (2 ^ 11)) := by
  -- no more than 20 digits: the number is neither too large nor too small to be worked out
  have hdigits : (Nat.toDigits 10 n).length ≤ 20 :=
    (Nat.length_toDigits_le_iff (by decide) (by decide)).mpr (by omega)
  have hne : ¬ (n == 0) = true := by
    rw [beq_iff_eq]
    omega
  rw [← nearestMagnitude_long hmin hmax]
  unfold ofInt ofDecimal
  dsimp only
  rw [Int.natAbs_natCast, if_neg hne, if_neg (by omega), if_neg (by omega),
    decide_eq_false (by omega)]
  simp [Nat.pow_eq]

/-- What such an integer is held as: `isInteger_carried` at the exponent 11, between the bounds that
`roundDiv` keeps to. -/
theorem isInteger_ofInt_long {n : Nat} (hmin : 2 ^ 63 ≤ n) (hmax : n < 2 ^ 64) :
    (ofInt n).IsInteger (roundDiv n (2 ^ 11) * 2 ^ 11 : Nat) := by
  have hleast := div_le_roundDiv n (2 ^ 11)
  have hgreatest := roundDiv_le n (2 ^ 11)
  rw [ofInt_long hmin hmax]
  exact isInteger_carried (by decide) (by omega) (by omega)

/-- Beyond the signed integers of 64 bits, the multiples of `2 ^ 11` are kept. -/
theorem isInteger_ofInt_iff {n : Nat} (hmin : 2 ^ 63 ≤ n) (hmax : n < 2 ^ 64) :
    (ofInt n).IsInteger n ↔ 2 ^ 11 ∣ n := by
  have hrounded := isInteger_ofInt_long hmin hmax
  rw [← roundDiv_mul_eq_self_iff (by decide)]
  constructor
  · intro h
    exact Int.ofNat.inj (hrounded.unique h)
  · intro h
    rw [h] at hrounded
    exact hrounded

end EntityMapper.Binary64
