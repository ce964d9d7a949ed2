import EntityMapper.Binary64.Basic

/-!
# The shortest decimal of a double

Of all decimals that read back as a double, one with the fewest digits, and among those the nearest.
The reals that round to the double form an interval; on the decimal grid with `n` digits it is
enough to look at the two neighbours of the double itself, because the interval contains a grid
point only if it contains one of these. The first grid with a hit wins.

How the digits are laid out is a matter of the format that uses them, and is given by a `Layout`.
-/

namespace EntityMapper.Binary64

/-- A positive decimal `digits · 10 ^ scale`. -/
structure Decimal where
  digits : Nat
  scale : Int
deriving DecidableEq, Repr

/-- The reals that round to a positive double: between `low` and `high`, around `middle`, all over
`denominator`, ends included if `closed`. -/
structure Neighbourhood where
  low : Nat
  middle : Nat
  high : Nat
  denominator : Nat
  closed : Bool

/-- The neighbourhood of a positive finite double. It reaches half way to the next double on either
side; below a power of two the doubles lie twice as dense. -/
def neighbourhood (x : Binary64) : Neighbourhood :=
  let m := x.significand
  let q := x.exponent - 2
  -- one of `up` and `denominator` is one: the other holds the power of two
  let up := Nat.pow 2 q.toNat
  let below := if x.fraction == 0 && 1 < x.exponentField then 1 else 2
  { low := (4 * m - below) * up
    middle := 4 * m * up
    high := (4 * m + 2) * up
    denominator := Nat.pow 2 (-q).toNat
    closed := m % 2 == 0 }

def Neighbourhood.contains (r : Neighbourhood) (d : Nat) (k : Int) : Bool :=
  let value := d * Nat.pow 10 k.toNat * r.denominator
  let unit := Nat.pow 10 (-k).toNat
  if r.closed then r.low * unit ≤ value && value ≤ r.high * unit
  else r.low * unit < value && value < r.high * unit

/-- The greatest `e` with `10 ^ e ≤ numerator / denominator`, both being positive. -/
def decimalExponent (numerator denominator : Nat) : Int :=
  if denominator ≤ numerator then
    ((Nat.toDigits 10 (numerator / denominator)).length : Int) - 1
  else
    let quotient := (denominator + numerator - 1) / numerator - 1
    Int.negOfNat (Nat.toDigits 10 quotient).length

/-- The neighbour on the grid `10 ^ k` that reads back, the nearer one if both do, the even one if
they are equally near. -/
def Neighbourhood.gridPoint? (r : Neighbourhood) (k : Int) : Option Decimal :=
  let numerator := r.middle * Nat.pow 10 (-k).toNat
  let denominator := r.denominator * Nat.pow 10 k.toNat
  let d := numerator / denominator
  let twice := 2 * (numerator % denominator)
  let upFirst := denominator < twice || (twice == denominator && d % 2 == 1)
  -- the nearer neighbour is tried first
  let (first, second) := if upFirst then (d + 1, d) else (d, d + 1)
  if r.contains first k then some ⟨first, k⟩
  else if r.contains second k then some ⟨second, k⟩
  else none

/-- Drops the zeros at the end of the digits; `fuel` bounds how many. -/
def Decimal.reduce (fuel : Nat) (d : Decimal) : Decimal :=
  match fuel with
  | 0 => d
  | fuel + 1 =>
    if d.digits % 10 == 0 && d.digits != 0 then
      Decimal.reduce fuel ⟨d.digits / 10, d.scale + 1⟩
    else d

/-- The shortest decimal that reads back as a positive finite double. Seventeen digits always do. -/
def shortest (x : Binary64) : Decimal :=
  let r := x.neighbourhood
  let e := decimalExponent r.middle r.denominator
  -- finer and finer grids, from one digit to seventeen
  let hit := (List.range 17).findSome? fun (n : Nat) => r.gridPoint? (e - n)
  (hit.getD ⟨r.middle, 0⟩).reduce 17

/-! ## Layout -/

/-- Where a format leaves positional notation. -/
structure Layout where
  /-- The least power of ten of the first digit that is written positionally. -/
  leastExponent : Int
  /-- The greatest such power. -/
  greatestExponent : Int

def zeros (n : Nat) : List Char := List.replicate n '0'

/-- The decimal in a layout: positional with at least one digit on either side of the point, or one
digit before the point and a power of ten that always carries its sign. -/
def Layout.place (layout : Layout) (d : Decimal) : List Char :=
  let digits := Nat.toDigits 10 d.digits
  let e := d.scale + digits.length - 1
  if e < layout.leastExponent || layout.greatestExponent < e then
    let fraction :=
      match digits.drop 1 with
      | [] => []
      | rest => '.' :: rest
    digits.take 1 ++ fraction ++ ['e', if e < 0 then '-' else '+'] ++ Nat.toDigits 10 e.natAbs
  else if e < 0 then
    ['0', '.'] ++ zeros (e.natAbs - 1) ++ digits
  else if 0 ≤ d.scale then
    digits ++ zeros d.scale.toNat ++ ['.', '0']
  else
    digits.take (e.toNat + 1) ++ ['.'] ++ digits.drop (e.toNat + 1)

/-- A finite double in a layout. Zero keeps its sign and reads `0.0`. -/
def write (layout : Layout) (x : Binary64) : List Char :=
  (if x.isNegative then ['-'] else [])
    ++ if x.significand == 0 then ['0', '.', '0'] else layout.place x.shortest

end EntityMapper.Binary64
