/-!
# Punycode

Letters beyond ASCII, written in ASCII. In front of the last hyphen stand the ASCII characters of
the text, behind it one number for each of the others. The numbers tell how far to count on through
all pairs of a code point and a place in the text, the code points being the slower to change.

Each number has its least digit in front, and its end shows by a digit below a threshold. The
thresholds follow the size of the numbers before.
-/

namespace EntityMapper.Url.Punycode

/-- The value of a digit: a letter, or beyond the letters a decimal digit. -/
def digit? (c : Char) : Option Nat :=
  if c.isLower then some (c.toNat - 'a'.toNat)
  else if c.isDigit then some (c.toNat - '0'.toNat + 26)
  else none

/-- The digit below which a number ends, for the digit whose place is `k / 36`. -/
def threshold (bias k : Nat) : Nat := min 26 (max 1 (k - bias))

/-- Divides a number down to the range of the last digits; `k` counts the divisions. -/
def settle (n k : Nat) : Nat :=
  if _ : 455 < n then settle (n / 35) (k + 36) else k + 36 * n / (n + 38)
termination_by n
decreasing_by omega

/-- The bias after a number, in a text that it has made `length` long. The first number is larger
than those that follow. -/
def biasAfter (number length : Nat) (first : Bool) : Nat :=
  let n := if first then number / 700 else number / 2
  settle (n + n / length) 0

/-- A text under way, and the number that is being read. -/
structure Progress where
  text : List Char
  codePoint : Nat := 128
  /-- Where the next character may stand at the earliest. -/
  place : Nat := 0
  bias : Nat := 72
  number : Nat := 0
  /-- What a one in the next digit is worth. -/
  weight : Nat := 1
  /-- The place of the next digit, counted from one and 36 times over. -/
  k : Nat := 36

def Progress.insert? (p : Progress) (number : Nat) : Option Progress :=
  let length := p.text.length + 1
  let codePoint := p.codePoint + (p.place + number) / length
  let place := (p.place + number) % length
  if h : codePoint.isValidChar then
    some {
      text := p.text.insertIdx place (Char.ofNatAux codePoint h)
      codePoint
      place := place + 1
      bias := biasAfter number length (p.place == 0) }
  else none

def Progress.digit? (p : Progress) (c : Char) : Option Progress := do
  let d ← Punycode.digit? c
  let t := threshold p.bias p.k
  let number := p.number + d * p.weight
  if d < t then p.insert? number
  else return { p with number, weight := p.weight * (36 - t), k := p.k + 36 }

/-- The text that is written as `s`. A hyphen with nothing in front of it is no hyphen. -/
def decode? (s : List Char) : Option (List Char) := do
  let digits := (s.reverse.takeWhile (· != '-')).reverse
  let basic := s.take (s.length - digits.length - 1)
  let digits := if basic.isEmpty then s else digits
  if basic.any fun c => 0x80 ≤ c.toNat then none
  let p ← digits.foldlM Progress.digit? { text := basic }
  -- the last number has to have an end
  if p.k == 36 then some p.text else none

end EntityMapper.Url.Punycode
