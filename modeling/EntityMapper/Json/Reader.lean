import EntityMapper.Binary64.Nearest
import EntityMapper.Json.Basic

/-!
# Reading JSON text

A text is cut into tokens by an automaton that takes one character at a time, and the tokens are put
together by a second automaton that takes one token at a time and keeps the unfinished arrays and
objects on a stack. Both are folds, so reading ends after one pass over the text whatever it holds.

A number without point and exponent is an integer as long as it fits 64 bits, signed or unsigned;
every other number is the nearest double.
-/

namespace EntityMapper.Json

/-! ## Numbers -/

def decimalValue (digits : List Char) : Nat :=
  digits.foldl (fun n c => n * 10 + (c.toNat - '0'.toNat)) 0

/-- A run of digits that does not begin with a superfluous zero. -/
def isPlainInteger : List Char → Bool
  | [] => false
  | ['0'] => true
  | '0' :: _ => false
  | digits => digits.all Char.isDigit

/-- The exponent after its letter: an optional sign and at least one digit. -/
def readExponent (s : List Char) : Option Int :=
  let (negative, digits) :=
    match s with
    | '-' :: digits => (true, digits)
    | '+' :: digits => (false, digits)
    | digits => (false, digits)
  if digits.isEmpty || !digits.all Char.isDigit then none
  else some (if negative then -(decimalValue digits : Int) else decimalValue digits)

/-- The digits after the point, and the exponent, of what follows the integer part. -/
def readFraction (s : List Char) : Option (List Char × Int) :=
  let (digits, rest) :=
    match s with
    | '.' :: s => (s.takeWhile Char.isDigit, s.dropWhile Char.isDigit)
    | s => ([], s)
  if s.head? == some '.' && digits.isEmpty then none
  else
    match rest with
    | [] => some (digits, 0)
    | 'e' :: s => (readExponent s).map (digits, ·)
    | 'E' :: s => (readExponent s).map (digits, ·)
    | _ => none

def Number.read? (s : List Char) : Option Number :=
  let (negative, s) :=
    match s with
    | '-' :: s => (true, s)
    | s => (false, s)
  let whole := s.takeWhile Char.isDigit
  let rest := s.dropWhile Char.isDigit
  if !isPlainInteger whole then none
  else
    let n := decimalValue whole
    -- beyond 64 bits, and with a point or an exponent, a number is a double
    if rest.isEmpty && (if negative then 0 < n && n ≤ Nat.pow 2 63 else n < UInt64.size) then
      some (.int (if negative then -(n : Int) else n))
    else do
      let (digits, exponent) ← readFraction rest
      return .real (Binary64.ofDecimal negative (decimalValue (whole ++ digits))
        (exponent - digits.length))

/-! ## Tokens -/

/-- A piece of text between which blanks do not matter. -/
inductive Token where
  | openArray
  | closeArray
  | openObject
  | closeObject
  | colon
  | comma
  | string (s : String)
  /-- A literal or a number. -/
  | word (s : List Char)
deriving DecidableEq, Repr

/-- What the tokenizer is in the middle of. Characters gathered so far are held in reverse. -/
inductive Mode where
  | between
  | word (gathered : List Char)
  | string (gathered : List Char)
  | escape (gathered : List Char)
  /-- Inside the four digits of a code unit; `high` is the first half of a surrogate pair. -/
  | unit (gathered : List Char) (high : Option Nat) (missing : Nat) (value : Nat)
  /-- After the first half of a surrogate pair. -/
  | halfway (gathered : List Char) (high : Nat)
  /-- After the backslash of the second half. -/
  | halfwayEscape (gathered : List Char) (high : Nat)

/-- Tokens so far, in reverse, and what is under way. -/
structure Scan where
  tokens : List Token
  mode : Mode

def hexDigit? (c : Char) : Option Nat :=
  if c.isDigit then some (c.toNat - '0'.toNat)
  else if 'a' ≤ c && c ≤ 'f' then some (c.toNat - 'a'.toNat + 10)
  else if 'A' ≤ c && c ≤ 'F' then some (c.toNat - 'A'.toNat + 10)
  else none

def isGap (c : Char) : Bool := c == ' ' || c == '\t' || c == '\n' || c == '\r'

def punctuation? (c : Char) : Option Token :=
  match c with
  | '[' => some .openArray
  | ']' => some .closeArray
  | '\x7b' => some .openObject
  | '\x7d' => some .closeObject
  | ':' => some .colon
  | ',' => some .comma
  | _ => none

def Scan.begin (tokens : List Token) (c : Char) : Scan :=
  if isGap c then ⟨tokens, .between⟩
  else
    match punctuation? c with
    | some token => ⟨token :: tokens, .between⟩
    | none => if c == '"' then ⟨tokens, .string []⟩ else ⟨tokens, .word [c]⟩

def simpleEscape? (c : Char) : Option Char :=
  match c with
  | '"' => some '"'
  | '\\' => some '\\'
  | '/' => some '/'
  | 'b' => some (Char.ofNat 0x8)
  | 'f' => some (Char.ofNat 0xC)
  | 'n' => some '\n'
  | 'r' => some '\r'
  | 't' => some '\t'
  | _ => none

/-- A complete code unit: a character, or the first half of a pair. -/
def closeUnit (gathered : List Char) (high : Option Nat) (value : Nat) : Option Mode :=
  let isHigh := 0xD800 ≤ value && value ≤ 0xDBFF
  let isLow := 0xDC00 ≤ value && value ≤ 0xDFFF
  match high with
  | some h =>
    if isLow then
      some (.string (Char.ofNat (0x10000 + (h - 0xD800) * 0x400 + (value - 0xDC00)) :: gathered))
    else none
  | none =>
    if isHigh then some (.halfway gathered value)
    else if isLow then none
    else some (.string (Char.ofNat value :: gathered))

def Scan.step (scan : Scan) (c : Char) : Option Scan :=
  match scan.mode with
  | .between => some (.begin scan.tokens c)
  | .word gathered =>
    if isGap c || c == '"' || (punctuation? c).isSome then
      some (.begin (.word gathered.reverse :: scan.tokens) c)
    else some { scan with mode := .word (c :: gathered) }
  | .string gathered =>
    if c == '"' then some ⟨.string (String.ofList gathered.reverse) :: scan.tokens, .between⟩
    else if c == '\\' then some { scan with mode := .escape gathered }
    else if c.toNat < 0x20 then none
    else some { scan with mode := .string (c :: gathered) }
  | .escape gathered =>
    if c == 'u' then some { scan with mode := .unit gathered none 4 0 }
    else (simpleEscape? c).map fun d => { scan with mode := .string (d :: gathered) }
  | .unit gathered high missing value => do
    let value := value * 16 + (← hexDigit? c)
    if missing ≤ 1 then
      return { scan with mode := ← closeUnit gathered high value }
    else return { scan with mode := .unit gathered high (missing - 1) value }
  | .halfway gathered high =>
    if c == '\\' then some { scan with mode := .halfwayEscape gathered high } else none
  | .halfwayEscape gathered high =>
    if c == 'u' then some { scan with mode := .unit gathered (some high) 4 0 } else none

def tokens? (s : List Char) : Option (List Token) := do
  let scan ← s.foldlM Scan.step ⟨[], .between⟩
  match scan.mode with
  | .between => some scan.tokens.reverse
  | .word gathered => some (.word gathered.reverse :: scan.tokens).reverse
  | _ => none

/-! ## Documents -/

/-- An array or object that is still open. Items are held in reverse. -/
inductive Frame where
  | array (items : List Json)
  | object (members : List (String × Json)) (key : String)

/-- What may come next. -/
inductive Awaiting where
  | value
  /-- The first item, or the end of an empty array. -/
  | firstItem
  /-- The first key, or the end of an empty object. -/
  | firstKey
  | key (members : List (String × Json))
  | colon (members : List (String × Json)) (key : String)
  /-- A comma or an end: the latest value of the open frame is complete. -/
  | separator
  | nothing (document : Json)

/-- Open frames, innermost first, and what may come next. -/
structure Build where
  frames : List Frame
  awaiting : Awaiting

/-- A value is complete: it joins the innermost frame, or is the document. -/
def Build.complete (frames : List Frame) (value : Json) : Build :=
  match frames with
  | [] => ⟨[], .nothing value⟩
  | .array items :: rest => ⟨.array (value :: items) :: rest, .separator⟩
  | .object members key :: rest => ⟨.object (put key value members) key :: rest, .separator⟩

def ofWord? (s : List Char) : Option Json :=
  if s = ['n', 'u', 'l', 'l'] then some .null
  else if s = ['t', 'r', 'u', 'e'] then some (.bool true)
  else if s = ['f', 'a', 'l', 's', 'e'] then some (.bool false)
  else (Number.read? s).map .num

def Build.value (frames : List Frame) (token : Token) : Option Build :=
  match token with
  | .openArray => some ⟨.array [] :: frames, .firstItem⟩
  | .openObject => some ⟨frames, .firstKey⟩
  | .string s => some (.complete frames (.str s))
  | .word s => (ofWord? s).map (.complete frames)
  | _ => none

def Build.step (build : Build) (token : Token) : Option Build :=
  match build.awaiting, token with
  | .value, token => Build.value build.frames token
  | .firstItem, .closeArray => some (.complete (build.frames.drop 1) (.arr []))
  | .firstItem, token => Build.value build.frames token
  | .firstKey, .closeObject => some (.complete build.frames (.obj []))
  | .firstKey, .string key => some { build with awaiting := .colon [] key }
  | .key members, .string key => some { build with awaiting := .colon members key }
  | .colon members key, .colon => some ⟨.object members key :: build.frames, .value⟩
  | .separator, .comma =>
    match build.frames with
    | .array _ :: _ => some { build with awaiting := .value }
    | .object members _ :: rest => some ⟨rest, .key members⟩
    | [] => none
  | .separator, .closeArray =>
    match build.frames with
    | .array items :: rest => some (.complete rest (.arr items.reverse))
    | _ => none
  | .separator, .closeObject =>
    match build.frames with
    | .object members _ :: rest => some (.complete rest (.obj members))
    | _ => none
  | _, _ => none

def read? (s : String) : Option Json := do
  let build ← (← tokens? s.toList).foldlM Build.step ⟨[], .value⟩
  match build.awaiting with
  | .nothing document => some document
  | _ => none

end EntityMapper.Json
