import EntityMapper.Condition.Operator
import EntityMapper.Error

/-!
# Field tokens

A field token is the left side of a comparison: a column reference, and behind it an operator, which
may be left out for equality. A symbol may touch the reference, a word has to stand apart. Among the
symbols that a token could end with, the longest one that leaves something before it is taken.
-/

namespace EntityMapper

/-- A column reference with the comparison written behind it. -/
structure FieldToken where
  field : String
  comparison : Comparison
deriving DecidableEq, Repr

namespace FieldToken

/-! ## Column references -/

/-- Characters that begin an identifier: ASCII letters and the underscore. -/
def beginsIdentifier (c : Char) : Bool := c.isAlpha || c == '_'

def continuesIdentifier (c : Char) : Bool := c.isAlphanum || c == '_'

def isIdentifier : List Char → Bool
  | [] => false
  | c :: rest => beginsIdentifier c && rest.all continuesIdentifier

/-- A column, or a table and a column with a dot between them. -/
def isReference (s : List Char) : Bool :=
  match s.dropWhile (· != '.') with
  | [] => isIdentifier s
  | _ :: column => isIdentifier (s.takeWhile (· != '.')) && isIdentifier column

/-! ## The operator at the end -/

def ofSymbol? (s : List Char) : Option Comparison :=
  [Comparison.equal, .notEqual, .bangEqual, .atMost, .less, .atLeast, .greater,
    .nullSafeEqual, .bitAnd,
    .bitOr, .bitXor, .bitNot, .shiftLeft, .shiftRight].find? (·.token.toList == s)

/-- A letter of an operator word as its capital. The kelvin sign is a K here. -/
def wordLetter (c : Char) : Char := if c.toNat == 0x212A then 'K' else c.toUpper

def isWord (s : List Char) : Bool :=
  let capitals := s.map wordLetter
  capitals == ['L', 'I', 'K', 'E'] || capitals == ['R', 'E', 'G', 'E', 'X', 'P']

/-- What a token ends with. -/
inductive Ending where
  | symbol (c : Comparison)
  | word (s : List Char)
  | nothing
deriving DecidableEq, Repr

/-- The last `n` characters as a symbol, with what stands before it. -/
def symbolOf? (n : Nat) (s : List Char) : Option (List Char × Ending) :=
  if n < s.length then
    (ofSymbol? (s.drop (s.length - n))).map fun c =>
      (Text.trimEnd (s.take (s.length - n)), .symbol c)
  else none

/-- The last `n` characters as a word, with what stands before it and before the blanks between. -/
def wordOf? (n : Nat) (s : List Char) : Option (List Char × Ending) :=
  let front := s.take (s.length - n)
  let word := s.drop (s.length - n)
  if isWord word && (front.getLast?.map Text.isBlank).getD false then
    some (Text.trimEnd front, .word word)
  else none

/-- A token without blanks around it, parted into field and ending. -/
def part (s : List Char) : List Char × Ending :=
  -- longer symbols come first, so that `<=>` is not taken for `>`
  let endings := [symbolOf? 3 s, symbolOf? 2 s, symbolOf? 1 s, wordOf? 4 s, wordOf? 6 s]
  (endings.findSome? id).getD (s, .nothing)

/-! ## Reading -/

/-- Why a text is no field token. -/
inductive Fault where
  /-- Nothing but line feeds, or a line feed inside the field. -/
  | malformed (token : String)
  | badReference (field token : String)
  | unsupported (operator : String)
deriving DecidableEq, Repr

def Fault.error : Fault → Error
  | .malformed token => .condition s!"Invalid condition field '{token}'"
  | .badReference field token =>
    .condition s!"Invalid column reference '{field}' in condition field '{token}'"
  | .unsupported operator => .condition s!"Unsupported operator '{operator}'"

def read (token : String) : Except Fault FieldToken :=
  let s := token.toList
  let (field, ending) := part (Text.trim s)
  if s.all (· == '\n') || field.contains '\n' then .error (.malformed token)
  else if !isReference field then .error (.badReference (String.ofList field) token)
  else
    let name := String.ofList field
    match ending with
    | .nothing => .ok ⟨name, .equal⟩
    | .symbol c => .ok ⟨name, c⟩
    | .word w =>
      match Comparison.ofToken? (String.ofList w) with
      | some c => .ok ⟨name, c⟩
      | none => .error (.unsupported (String.ofList w))

def ofText (token : String) : Except Error FieldToken := (read token).mapError Fault.error

end FieldToken

end EntityMapper
