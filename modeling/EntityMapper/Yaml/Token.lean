import EntityMapper.Yaml.Scalar

/-!
# YAML tokens

A YAML text as a row of tokens. Brackets and commas are tokens as they stand; the blocks, which have
no brackets, are made out from the columns: a block begins with the first token of it, and ends
before the first token that stands further left.

Only a colon tells that the token before it was a key, so the beginnings of tokens that may be keys
are kept as candidates, one for the block and one for each flow collection around the place. A key
stands on one line, with its colon within 1024 characters.

Anchors, aliases, tags, block scalars and directives are refused.
-/

namespace EntityMapper.Yaml

/-- A token of a YAML text. -/
inductive Token where
  | documentStart
  | documentEnd
  | blockSequence
  | blockMapping
  | blockEnd
  | openSequence
  | closeSequence
  | openMapping
  | closeMapping
  | comma
  /-- The hyphen in front of an item of a block. -/
  | item
  /-- Stands in front of a key. -/
  | key
  /-- Stands in front of a value. -/
  | value
  | scalar (plain : Bool) (text : String)
deriving DecidableEq, Repr

/-! ## Candidates for keys -/

/-- The beginning of a token that becomes a key if a colon follows it. -/
structure Candidate where
  /-- How many tokens stand before it. -/
  number : Nat
  line : Nat
  column : Nat
  /-- Whether nothing but a key can stand there, as in the column of an open mapping. -/
  required : Bool
deriving DecidableEq, Repr

/-- Whether no colon at a place can make the candidate a key any more. -/
def Candidate.isStale (k : Candidate) (p : Place) : Bool :=
  k.line < p.line || k.column + 1024 < p.column

/-- Gives up a candidate, unless it has to be a key. -/
def giveUp? (k? : Option Candidate) : Option (Option Candidate) :=
  if (k?.map (·.required)).getD false then none else some none

def refresh? (p : Place) (k? : Option Candidate) : Option (Option Candidate) :=
  if (k?.map (·.isStale p)).getD false then giveUp? k? else some k?

/-! ## A text under way -/

/-- A text of which the front has been cut into tokens. -/
structure Scan where
  place : Place
  tokens : List Token := []
  /-- The columns of the open blocks, the innermost first. -/
  columns : List Nat := []
  /-- The candidate of the innermost flow collection, or of the block. -/
  candidate? : Option Candidate := none
  /-- The candidates around the flow collections that are open, the innermost first. -/
  outer : List (Option Candidate) := []
  /-- Whether a key may begin here, and with it a block. -/
  keyAllowed : Bool := true
deriving Repr

namespace Scan

def inFlow (s : Scan) : Bool := !s.outer.isEmpty

/-- The first column to the right of the innermost block. -/
def margin (s : Scan) : Nat :=
  match s.columns with
  | [] => 0
  | column :: _ => column + 1

/-- One token more, which is `n` characters long. -/
def push (s : Scan) (t : Token) (n : Nat) : Scan :=
  { s with tokens := s.tokens ++ [t], place := s.place.forward n }

/-! ## Blocks -/

/-- Ends the blocks whose columns satisfy `ends`, from the innermost on. Inside brackets columns do
not count. -/
def closeBlocks (s : Scan) (ends : Nat → Bool) : Scan :=
  if s.inFlow then s
  else
    { s with
      tokens := s.tokens ++ List.replicate (s.columns.takeWhile ends).length .blockEnd
      columns := s.columns.dropWhile ends }

/-- Begins a block here, unless this is an item or a key of the block that is open. -/
def openBlock? (s : Scan) (t : Token) : Option Scan :=
  if s.inFlow then some s
  else if !s.keyAllowed then none
  else if s.margin ≤ s.place.column then
    some { s with tokens := s.tokens ++ [t], columns := s.place.column :: s.columns }
  else some s

/-! ## Keys -/

/-- Leaves the candidate of the innermost collection. -/
def leaveCandidate? (s : Scan) : Option Scan := do
  return { s with candidate? := ← giveUp? s.candidate? }

/-- Makes the token that begins here a candidate, if a key may begin here. -/
def noteCandidate? (s : Scan) : Option Scan :=
  if s.keyAllowed then do
    let k := {
      number := s.tokens.length
      line := s.place.line
      column := s.place.column
      required := !s.inFlow && s.margin == s.place.column + 1 }
    return { ← s.leaveCandidate? with candidate? := some k }
  else some s

/-- Makes a candidate a key, and with it the first key of a block if it stands further right than
those that are open. -/
def takeKey (s : Scan) (k : Candidate) : Scan :=
  let opens := !s.inFlow && s.margin ≤ k.column
  { s with
    tokens :=
      s.tokens.take k.number ++ (if opens then [.blockMapping, .key] else [.key])
        ++ s.tokens.drop k.number
    columns := if opens then k.column :: s.columns else s.columns
    candidate? := none
    keyAllowed := false }

/-! ## Tokens one by one -/

def document? (s : Scan) (t : Token) : Option Scan := do
  let s ← (s.closeBlocks fun _ => true).leaveCandidate?
  return { s.push t 3 with keyAllowed := false }

def openFlow? (s : Scan) (t : Token) : Option Scan := do
  let s ← s.noteCandidate?
  return { s.push t 1
    with candidate? := none, outer := s.candidate? :: s.outer, keyAllowed := true }

def closeFlow? (s : Scan) (t : Token) : Option Scan := do
  let s ← s.leaveCandidate?
  return { s.push t 1 with
    candidate? := s.outer.head?.join, outer := s.outer.drop 1, keyAllowed := false }

def comma? (s : Scan) : Option Scan := do
  let s ← s.leaveCandidate?
  return { s.push .comma 1 with keyAllowed := true }

def item? (s : Scan) : Option Scan := do
  let s ← (← s.openBlock? .blockSequence).leaveCandidate?
  return { s.push .item 1 with keyAllowed := true }

/-- A question mark, which tells in advance that a key follows. -/
def key? (s : Scan) : Option Scan := do
  let s ← (← s.openBlock? .blockMapping).leaveCandidate?
  return { s.push .key 1 with keyAllowed := !s.inFlow }

/-- A colon. It makes the candidate a key; without a candidate the key has been told in advance, or
it is missing. -/
def value? (s : Scan) : Option Scan :=
  match s.candidate? with
  | some k => some ((s.takeKey k).push .value 1)
  | none => do
    let s ← s.openBlock? .blockMapping
    return { s.push .value 1 with keyAllowed := !s.inFlow }

def quoted? (s : Scan) : Option Scan := do
  let s ← s.noteCandidate?
  let (text, place) ← Yaml.quoted? s.place
  return { s with
    tokens := s.tokens ++ [.scalar false (String.ofList text)], place, keyAllowed := false }

/-- A plain scalar. Where it leaves its last line a key may follow. -/
def plain? (s : Scan) : Option Scan := do
  let s ← s.noteCandidate?
  let (text, place, gap) ← plainFrom? s.inFlow s.margin [] [] s.place
  return { s with
    tokens := s.tokens ++ [.scalar true (String.ofList text)]
    place
    keyAllowed := gap.any isLineEnd }

def token? (s : Scan) : Option Scan :=
  let p := s.place
  let separate := s.inFlow || atGap (p.rest.drop 1)
  match p.rest.head? with
  | none => none
  | some c =>
    -- directives stand in the first column
    if c == '%' && p.column == 0 then none
    else if p.atMarker then s.document? (if c == '-' then .documentStart else .documentEnd)
    else if c == '[' then s.openFlow? .openSequence
    else if c == '\x7b' then s.openFlow? .openMapping
    else if c == ']' then s.closeFlow? .closeSequence
    else if c == '\x7d' then s.closeFlow? .closeMapping
    else if c == ',' then s.comma?
    else if c == '-' && atGap (p.rest.drop 1) then s.item?
    else if c == '?' && separate then s.key?
    else if c == ':' && separate then s.value?
    else if c == '\'' || c == '"' then s.quoted?
    else if beginsPlain s.inFlow p.rest then s.plain?
    else none

/-! ## Between tokens -/

/-- Passes over what stands between two tokens: blanks, line ends, and comments, of which one may be
under way. A new line outside brackets lets a key begin. Where a key may begin a tab is no blank. -/
def skipFrom (inFlow keyAllowed comment : Bool) (line column : Nat) : List Char → Place × Bool
  | [] => (⟨[], line, column⟩, keyAllowed)
  | c :: rest =>
    if isLineEnd c then skipFrom inFlow (keyAllowed || !inFlow) false (line + 1) 0 rest
    else if comment || c == ' ' || (c == '\t' && (inFlow || !keyAllowed)) then
      skipFrom inFlow keyAllowed comment line (column + 1) rest
    else if c == '#' then skipFrom inFlow keyAllowed true line (column + 1) rest
    else (⟨c :: rest, line, column⟩, keyAllowed)

/-- Goes on to the next token. Candidates that are too far back are given up, and the blocks end to
which the token does not belong. -/
def toToken? (s : Scan) : Option Scan := do
  let (place, keyAllowed) :=
    skipFrom s.inFlow s.keyAllowed false s.place.line s.place.column s.place.rest
  let candidate? ← refresh? place s.candidate?
  let outer ← s.outer.mapM (refresh? place)
  let s := { s with place, keyAllowed, candidate?, outer }
  return s.closeBlocks (place.column < ·)

/-- The tokens up to the end of the text. Each token takes a unit of `fuel`. -/
def run? (fuel : Nat) (s : Scan) : Option (List Token) :=
  match fuel with
  | 0 => none
  | fuel + 1 => do
    let s ← s.toToken?
    if s.place.rest.isEmpty then
      let s ← (s.closeBlocks fun _ => true).leaveCandidate?
      return s.tokens
    else run? fuel (← s.token?)

end Scan

/-- The tokens of a text. Each of those that are written takes a character at least, so the fuel is
enough. -/
def tokens? (text : String) : Option (List Token) := do
  let place ← Place.ofText? text
  Scan.run? (place.rest.length + 1) { place }

end EntityMapper.Yaml
