import EntityMapper.Text.CompositionTable

/-!
# Composition of characters

A letter and its marks can be written as one character or as several. The composed form of a text
has the marks of each letter in one order and puts every pair of characters together for which there
is a single one, so that texts that read the same become the same.

Korean syllables are composed of letters by arithmetic, all other characters by a table.
-/

namespace EntityMapper.Text

/-! ## Marks in order -/

/-- The class of a mark, by the place where it stands at its letter; 0 for all other characters. -/
def markClass (c : Char) : Nat :=
  match CompositionTable.markClasses.find? fun (first, last, _) =>
      first ≤ c.toNat && c.toNat ≤ last with
  | some (_, _, k) => k
  | none => 0

/-- Puts a character in front of a text, but behind the marks there that have a lower class. -/
def placeMark (c : Char) : List Char → List Char
  | [] => [c]
  | d :: rest =>
    if 0 < markClass d && markClass d < markClass c then d :: placeMark c rest else c :: d :: rest

/-- A text with the marks of each letter in ascending order of their classes. Marks of one class,
which stand in the same place, keep their order. -/
def orderMarks (s : List Char) : List Char := s.foldr placeMark []

/-! ## Korean syllables

A syllable has one of 19 first letters, one of 21 vowels, and one of 28 endings, of which the first
is none at all. -/

/-- The syllable of a first letter and a vowel, or of a syllable without ending and an ending. -/
def syllable? (c d : Char) : Option Char :=
  let first := c.toNat - 0x1100
  let vowel := d.toNat - 0x1161
  let bare := c.toNat - 0xAC00
  let ending := d.toNat - 0x11A7
  if 0x1100 ≤ c.toNat && first < 19 && 0x1161 ≤ d.toNat && vowel < 21 then
    some (Char.ofNat (0xAC00 + (first * 21 + vowel) * 28))
  else if 0xAC00 ≤ c.toNat && bare < 11172 && bare % 28 == 0 && 0 < ending && ending < 28 then
    some (Char.ofNat (c.toNat + ending))
  else none

def syllableParts? (c : Char) : Option (Char × Char) :=
  let n := c.toNat - 0xAC00
  if c.toNat < 0xAC00 || 11172 ≤ n then none
  else if n % 28 == 0 then
    some (Char.ofNat (0x1100 + n / 28 / 21), Char.ofNat (0x1161 + n / 28 % 21))
  else some (Char.ofNat (c.toNat - n % 28), Char.ofNat (0x11A7 + n % 28))

/-! ## Taking apart -/

/-- The two parts of a character, of which the first may have parts again. -/
def parts? (c : Char) : Option (Char × Char) :=
  if c.toNat < 0x80 then none
  else
    match CompositionTable.pairs.find? fun (_, _, whole) => whole == c.toNat with
    | some (first, second, _) => some (Char.ofNat first, Char.ofNat second)
    | none => syllableParts? c

/-- A character taken apart `depth` times. -/
def decomposeTo (depth : Nat) (c : Char) : List Char :=
  match depth with
  | 0 => [c]
  | depth + 1 =>
    match parts? c with
    | some (first, second) => decomposeTo depth first ++ [second]
    | none => [c]

/-- A character taken apart. No character has more than four parts. -/
def decompose (c : Char) : List Char := decomposeTo 3 c

/-! ## Putting together -/

def whole? (c d : Char) : Option Char :=
  match CompositionTable.pairs.find? fun (first, second, _) =>
      first == c.toNat && second == d.toNat with
  | some (_, _, whole) => some (Char.ofNat whole)
  | none => syllable? c d

/-- Puts a text together behind the letter `letter`; `between` are, in reverse, the marks of it that
have stayed apart. A mark can be put together with its letter unless one of its class or a higher
one stands between them. -/
def composeFrom (letter : Char) (between : List Char) : List Char → List Char
  | [] => letter :: between.reverse
  | c :: rest =>
    let reaches := (between.head?.map fun d => decide (markClass d < markClass c)).getD true
    match if reaches then whole? letter c else none with
    | some whole => composeFrom whole between rest
    | none =>
      if markClass c == 0 then letter :: between.reverse ++ composeFrom c [] rest
      else composeFrom letter (c :: between) rest

/-- The composed form of a text. Marks in front of the first letter stay apart. -/
def composed (s : List Char) : List Char :=
  let s := orderMarks (s.flatMap decompose)
  let marks := s.takeWhile fun c => 0 < markClass c
  match s.dropWhile fun c => 0 < markClass c with
  | [] => marks
  | letter :: rest => marks ++ composeFrom letter [] rest

end EntityMapper.Text
