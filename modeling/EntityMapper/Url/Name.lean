import EntityMapper.Text.Case
import EntityMapper.Text.Composition
import EntityMapper.Text.QuotedTable
import EntityMapper.Url.NameTable
import EntityMapper.Url.Percent
import EntityMapper.Url.Punycode

/-!
# Names of the web

The names of hosts beyond ASCII. Characters that look alike stand for one of them, others for
nothing, and many may not occur. Dots of every kind divide a name into labels. A label that is
written in Punycode may hold only what would stand there unchanged.

Of each label three things are asked: it does not begin with a mark, its joiners stand where they
change the writing, and in a name with right-to-left letters it runs in one direction.
-/

namespace EntityMapper.Url

open EntityMapper.Text (withinEdges)

/-! ## Characters -/

def isForbiddenInHost (c : Char) : Bool :=
  c.toNat == 0 || c == '\t' || c == '\n' || c == '\r' || c == ' ' || c == '#'
    || c == '/' || c == ':'
    || c == '<' || c == '>' || c == '?' || c == '@' || c == '[' || c == '\\' || c == ']' || c == '^'
    || c == '|'

/-- Punctuation that no name of the web may contain. -/
def isForbiddenInName (c : Char) : Bool :=
  isForbiddenInHost c || c.toNat < 0x20 || c == '%' || c.toNat == 0x7F

/-- The characters that a code point beyond ASCII stands for, where they are of another nature than
it. -/
def otherForm? (n : Nat) : Option (List Char) :=
  let form := NameTable.asciiForms.findSome? fun (first, count, form) =>
    if first ≤ n && n < first + count then some [Char.ofNat (form + (n - first))] else none
  form <|> (NameTable.phrases.lookup n).map String.toList

/-- The characters that a character of a name stands for; there may be none. A letter for which
others of its nature stand is kept: what is asked of a name comes out the same. -/
def nameForm? (c : Char) : Option (List Char) :=
  if c.toNat < 0x80 then some [c.toLower]
  else if withinEdges NameTable.faulty c.toNat then none
  else if withinEdges NameTable.ignored c.toNat then some []
  else some ((otherForm? c.toNat).getD [c])

/-- Whether a character of a name stands for itself. -/
def isSettled (c : Char) : Bool :=
  if c.toNat < 0x80 then !isForbiddenInName c && !c.isUpper
  else
    !(withinEdges NameTable.faulty c.toNat || withinEdges NameTable.ignored c.toNat
      || withinEdges NameTable.replaced c.toNat)

/-! ## Marks and joiners -/

/-- The joiner and the non-joiner, which show nothing of their own. -/
def isJoiner (c : Char) : Bool := c.toNat == 0x200C || c.toNat == 0x200D

def isExtending (c : Char) : Bool :=
  !isJoiner c && withinEdges Text.QuotedTable.extending c.toNat

/-- Marks, which need a character before them. -/
def isMark (c : Char) : Bool := isExtending c || withinEdges NameTable.spacingMarks c.toNat

/-- Whether the first character that is no mark belongs to a table. -/
def leadsInto (edges : List Nat) (s : List Char) : Bool :=
  ((s.dropWhile isExtending).head?.map fun c => withinEdges edges c.toNat).getD false

/-- Whether each joiner changes the writing: it stands behind a mark that takes the vowel off its
letter, or, if it is a non-joiner, between two letters that would be joined. `before` holds in
reverse what stands before. -/
def joinersFit (before : List Char) : List Char → Bool
  | [] => true
  | c :: rest =>
    (!isJoiner c
      || (before.head?.map fun d => withinEdges NameTable.viramas d.toNat).getD false
      || (c.toNat == 0x200C && leadsInto NameTable.joinsNext before
        && leadsInto NameTable.joinsPrevious rest))
      && joinersFit (c :: before) rest

/-! ## Directions of writing -/

/-- The part of a character in the direction of a label. -/
inductive Direction where
  | leftToRight
  | rightToLeft
  | europeanNumber
  | arabicNumber
  | neutral
  | mark
deriving DecidableEq, Repr

def Direction.ofChar (c : Char) : Direction :=
  if c.toNat < 0x80 then
    if c.isAlpha then .leftToRight else if c.isDigit then .europeanNumber else .neutral
  else if isExtending c then .mark
  else if withinEdges NameTable.rightToLeft c.toNat then .rightToLeft
  else if withinEdges NameTable.arabicNumbers c.toNat then .arabicNumber
  else if withinEdges NameTable.europeanNumbers c.toNat then .europeanNumber
  else if isJoiner c || withinEdges NameTable.neutral c.toNat then .neutral
  else .leftToRight

/-- Whether a label runs in one direction. Its first character tells which; a number may end it, and
marks at the end do not count. -/
def runsOneWay (label : List Char) : Bool :=
  let all := label.map Direction.ofChar
  let body := (all.reverse.dropWhile (· == .mark)).reverse
  match all.head? with
  | none => true
  | some .leftToRight =>
    body.all (· ∈ [.leftToRight, .europeanNumber, .neutral, .mark])
      && body.getLast?.all (· ∈ [.leftToRight, .europeanNumber])
  | some .rightToLeft =>
    body.all (· != .leftToRight)
      && body.getLast?.all (· ∈ [.rightToLeft, .europeanNumber, .arabicNumber])
      && !(body.contains .europeanNumber && body.contains .arabicNumber)
  | some _ => false

/-- Whether a label makes its name one that is written from right to left. -/
def turnsName (label : List Char) : Bool :=
  label.any fun c => Direction.ofChar c ∈ [.rightToLeft, .arabicNumber]

/-! ## Names -/

/-- The characters of a label. Behind its mark it is written in Punycode, and then it has to hold
something beyond ASCII, in composed form. -/
def label? (s : List Char) : Option (List Char) :=
  match s with
  | 'x' :: 'n' :: '-' :: '-' :: code => do
    let label ← Punycode.decode? code
    let stands := label.all isSettled && Text.composed label == label
    if stands && label.any fun c => 0x80 ≤ c.toNat then some label else none
  | label => some label

/-- The characters that a name stands for, if it is a name. Its labels in Punycode are left as they
are. -/
def name? (s : List Char) : Option (List Char) := do
  -- forbidden punctuation may still become part of another character
  let name := Text.composed (← s.mapM nameForm?).flatten
  if name.any isForbiddenInName then none
  let labels ← (name.splitOn '.').mapM label?
  let fits := labels.all fun label =>
    !(label.head?.map isMark).getD false && joinersFit [] label
      && (!labels.any turnsName || runsOneWay label)
  if fits then some name else none

end EntityMapper.Url
