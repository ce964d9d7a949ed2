import EntityMapper.Text.CaseTable

/-!
# Letter case

Which characters are upper or lower case, and the lower case of a character and of a text. A capital
sigma at the end of a word is lowered to its final form; every other character is lowered by itself.
ASCII letters take a short way that does not look at the tables.
-/

namespace EntityMapper.Text

/-- Whether `n` lies on one of the runs `(first, last, step)`. -/
def onRuns (runs : List (Nat × Nat × Nat)) (n : Nat) : Bool :=
  runs.any fun (first, last, step) => first ≤ n && n ≤ last && (n - first) % step == 0

/-- Whether `n` lies in one of the intervals that the ascending `edges` open and close. -/
def withinEdges (edges : List Nat) (n : Nat) : Bool :=
  (edges.takeWhile (· ≤ n)).length % 2 == 1

/-- The property `Uppercase`. -/
def isUpper (c : Char) : Bool :=
  if c.toNat < 0x80 then c.isUpper else onRuns CaseTable.upper c.toNat

/-- The property `Lowercase`. -/
def isLower (c : Char) : Bool :=
  if c.toNat < 0x80 then c.isLower else onRuns CaseTable.lower c.toNat

def isCased (c : Char) : Bool :=
  isUpper c || isLower c || withinEdges CaseTable.title c.toNat

/-- The lower case of one character. Only the capital I with a dot becomes two characters. -/
def lowerChar (c : Char) : List Char :=
  if c.toNat < 0x80 then [c.toLower]
  else if c.toNat == 0x130 then ['i', Char.ofNat 0x307]
  else
    match CaseTable.lowering.find? fun (first, last, step, _) =>
        first ≤ c.toNat && c.toNat ≤ last && (c.toNat - first) % step == 0 with
    | some (_, _, _, delta) => [Char.ofNat (c.toNat + delta).toNat]
    | none => [c]

/-- Whether the first character that counts is a letter with a case. -/
def meetsCased (s : List Char) : Bool :=
  ((s.dropWhile fun c => withinEdges CaseTable.ignorable c.toNat).head?.map isCased).getD false

/-- The lower case of the characters that follow `before`, which is held in reverse. -/
def lowerFrom (before : List Char) : List Char → List Char
  | [] => []
  | c :: rest =>
    -- the final form is written where a letter stands before and none behind
    let lowered :=
      if c.toNat == 0x3A3 && meetsCased before && !meetsCased rest then [Char.ofNat 0x3C2]
      else lowerChar c
    lowered ++ lowerFrom (c :: before) rest

def lowercase (s : String) : String := String.ofList (lowerFrom [] s.toList)

/-- What a character contributes when a text is compared with a capitalised keyword. Beside the
ASCII letters these are all the characters whose upper case consists of ASCII letters. -/
def capitals (c : Char) : List Char :=
  match c.toNat with
  | 0xDF => ['S', 'S']
  | 0x131 => ['I']
  | 0x17F => ['S']
  | 0xFB00 => ['F', 'F']
  | 0xFB01 => ['F', 'I']
  | 0xFB02 => ['F', 'L']
  | 0xFB03 => ['F', 'F', 'I']
  | 0xFB04 => ['F', 'F', 'L']
  | 0xFB05 => ['S', 'T']
  | 0xFB06 => ['S', 'T']
  | _ => [c.toUpper]

/-- A text in the form in which it is compared with capitalised ASCII keywords. -/
def capitalised (s : List Char) : String := String.ofList (s.flatMap capitals)

def sameIgnoringAsciiCase (a b : String) : Bool :=
  a.toList.map Char.toLower == b.toList.map Char.toLower

end EntityMapper.Text
