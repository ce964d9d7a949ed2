/-!
# Places in a YAML text

The characters of a text, and the places between them. A place knows its line and its column, for in
YAML the column of a token decides to which block it belongs. A text is read with line ends of one
kind; only the two separators of lines and of paragraphs remain beside the line feed.
-/

namespace EntityMapper.Yaml

/-! ## Characters -/

def isLineEnd (c : Char) : Bool := c == '\n' || c.toNat == 0x2028 || c.toNat == 0x2029

def isBlank (c : Char) : Bool := c == ' ' || c == '\t'

def isSpacing (c : Char) : Bool := isBlank c || isLineEnd c

/-- Whether a text begins with a blank, a line end or its own end. -/
def atGap : List Char → Bool
  | [] => true
  | c :: _ => isSpacing c

def isFlowMark (c : Char) : Bool :=
  c == ',' || c == '[' || c == ']' || c == '\x7b' || c == '\x7d'

/-- Whether a character may stand in a text: no control character does but the tab and the line
ends. -/
def isAllowed (c : Char) : Bool :=
  c == '\t' || c == '\n' || (0x20 ≤ c.toNat && c.toNat < 0x7F) ||
    (0xA0 ≤ c.toNat && c.toNat != 0xFFFE && c.toNat != 0xFFFF)

/-- A text in which line feeds stand for all line ends of controls. -/
def lineFeeds : List Char → List Char
  | '\r' :: '\n' :: rest => '\n' :: lineFeeds rest
  | '\r' :: rest => '\n' :: lineFeeds rest
  | c :: rest => (if c.toNat == 0x85 then '\n' else c) :: lineFeeds rest
  | [] => []

/-! ## Places -/

/-- A place in a text. -/
structure Place where
  /-- The characters from here on. -/
  rest : List Char
  line : Nat
  column : Nat
deriving DecidableEq, Repr

namespace Place

/-- The beginning of a text, if all its characters are allowed. A mark of the byte order does not
belong to the text, but the first line has it in its first column. -/
def ofText? (text : String) : Option Place :=
  let s := lineFeeds text.toList
  if !s.all isAllowed then none
  else
    match s with
    | c :: rest => some (if c.toNat == 0xFEFF then ⟨rest, 0, 1⟩ else ⟨c :: rest, 0, 0⟩)
    | [] => some ⟨[], 0, 0⟩

def next (p : Place) : Place :=
  match p.rest with
  | [] => p
  | c :: rest => if isLineEnd c then ⟨rest, p.line + 1, 0⟩ else ⟨rest, p.line, p.column + 1⟩

def forward (p : Place) : Nat → Place
  | 0 => p
  | n + 1 => p.next.forward n

def gap (p : Place) : List Char := p.rest.takeWhile isSpacing

/-- Whether a document begins or ends here. -/
def atMarker (p : Place) : Bool :=
  p.column == 0 && atGap (p.rest.drop 3) &&
    (p.rest.take 3 == ['-', '-', '-'] || p.rest.take 3 == ['.', '.', '.'])

theorem rest_next (p : Place) : p.next.rest = p.rest.drop 1 := by
  unfold next
  split
  · rename_i h; simp [h]
  · rename_i h; split <;> simp [h]

/-- Going forward takes characters off the front, and nothing else. -/
theorem rest_forward (p : Place) (n : Nat) : (p.forward n).rest = p.rest.drop n := by
  induction n generalizing p with
  | zero => rfl
  | succ n ih => rw [forward, ih, rest_next, List.drop_drop, Nat.add_comm]

/-- Where something is left, a step forward leaves less. -/
theorem length_forward_lt {p : Place} {n : Nat} (hn : 0 < n) (hp : 0 < p.rest.length) :
    (p.forward n).rest.length < p.rest.length := by
  rw [rest_forward, List.length_drop]
  omega

/-- A gap begins with the blank or line end that stands here. -/
theorem gap_length_pos {p : Place} {c : Char} {rest : List Char} (h : p.rest = c :: rest)
    (hc : isSpacing c) : 0 < p.gap.length := by
  simp [gap, h, hc]

end Place

end EntityMapper.Yaml
