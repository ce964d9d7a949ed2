/-!
# Octets of a text

The UTF-8 octets of a character, as numbers below 256, and the reading of octets as text. Reading
never fails: octets that begin no character are read as the replacement character, one for each
longest beginning of a character that breaks off.
-/

namespace EntityMapper.Text

def octets (c : Char) : List Nat :=
  let n := c.toNat
  if n < 0x80 then [n]
  else if n < 0x800 then [0xC0 + n / 0x40, 0x80 + n % 0x40]
  else if n < 0x10000 then [0xE0 + n / 0x1000, 0x80 + n / 0x40 % 0x40, 0x80 + n % 0x40]
  else [0xF0 + n / 0x40000, 0x80 + n / 0x1000 % 0x40, 0x80 + n / 0x40 % 0x40, 0x80 + n % 0x40]

def replacement : Char := Char.ofNat 0xFFFD

/-- A character of which `missing` octets are still to come; the next one has to lie between `low`
and `high`, and `value` holds the bits so far. -/
structure Unfinished where
  missing : Nat
  low : Nat
  high : Nat
  value : Nat
deriving DecidableEq, Repr

/-- What an octet does where a character may begin. -/
inductive Lead where
  | complete (c : Char)
  | opens (p : Unfinished)
  | stray
deriving DecidableEq, Repr

/-- The first octet of a character. The second octet has a narrower range where the full one would
write a character in too many octets, a surrogate, or a number beyond the last code point. -/
def lead (b : Nat) : Lead :=
  if b < 0x80 then .complete (Char.ofNat b)
  else if 0xC2 ≤ b && b ≤ 0xDF then .opens ⟨1, 0x80, 0xBF, b - 0xC0⟩
  else if 0xE0 ≤ b && b ≤ 0xEF then
    .opens ⟨2, if b == 0xE0 then 0xA0 else 0x80, if b == 0xED then 0x9F else 0xBF, b - 0xE0⟩
  else if 0xF0 ≤ b && b ≤ 0xF4 then
    .opens ⟨3, if b == 0xF0 then 0x90 else 0x80, if b == 0xF4 then 0x8F else 0xBF, b - 0xF0⟩
  else .stray

/-- One octet where a character may begin: what it spells, and what is then held. -/
def begin (b : Nat) : List Char × Option Unfinished :=
  match lead b with
  | .complete c => ([c], none)
  | .opens p => ([], some p)
  | .stray => ([replacement], none)

/-- One octet after the beginning `held` of a character, if there is one. An octet that cannot
follow breaks the character off and begins afresh. -/
def advance (held : Option Unfinished) (b : Nat) : List Char × Option Unfinished :=
  match held with
  | none => begin b
  | some p =>
    if p.low ≤ b && b ≤ p.high then
      let value := p.value * 0x40 + (b - 0x80)
      if p.missing == 1 then ([Char.ofNat value], none)
      else ([], some ⟨p.missing - 1, 0x80, 0xBF, value⟩)
    else
      let (spelt, next) := begin b
      (replacement :: spelt, next)

/-- Reads octets after the beginning `held` of a character, if there is one. -/
def readOctets (held : Option Unfinished) : List Nat → List Char
  | [] => if held.isSome then [replacement] else []
  | b :: rest =>
    let (spelt, next) := advance held b
    spelt ++ readOctets next rest

def ofOctets (bytes : List Nat) : List Char := readOctets none bytes

end EntityMapper.Text
