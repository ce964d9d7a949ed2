import EntityMapper.Yaml.Node
import EntityMapper.Yaml.Place

/-!
# YAML scalars

A scalar stands in quotes or is plain. Each may go on over several lines; then what stands between
two words, blanks and line ends, is folded. Single quotes know one escape, a quote written twice;
double quotes take escapes behind a backslash, and an escaped line end leaves no trace.
-/

namespace EntityMapper.Yaml

/-! ## Folding -/

/-- What stands for a gap between two words. On one line that is the gap itself. A single line feed
becomes a space; the first of several gives way to the others. -/
def folded (gap : List Char) : List Char :=
  match gap.filter isLineEnd with
  | [] => gap
  | ['\n'] => [' ']
  | '\n' :: more => more
  | lineEnds => lineEnds

/-! ## Plain scalars -/

def isIndicator (c : Char) : Bool :=
  isFlowMark c || c ∈ ['#', '&', '*', '!', '|', '>', '\'', '"', '%', '@', Char.ofNat 0x60]

/-- Whether a plain scalar may begin here. -/
def beginsPlain (inFlow : Bool) : List Char → Bool
  | [] => false
  | c :: rest =>
    if c == '-' then !atGap rest
    else if c == '?' || c == ':' then !inFlow && !atGap rest
    else !(isSpacing c || isIndicator c)

/-- Whether a mark stands behind a colon in a flow collection, where neither a plain scalar can go
on nor a value begin. -/
def colonCollides : List Char → Bool
  | ':' :: c :: _ => isFlowMark c || c == '?'
  | _ => false

/-- The length of the word at the beginning of a text: up to a gap, the colon of a key, or inside a
flow collection up to its punctuation. -/
def wordLength (inFlow : Bool) : List Char → Nat
  | [] => 0
  | c :: rest =>
    if isSpacing c || (c == ':' && atGap rest) then 0
    else if inFlow && (isFlowMark c || colonCollides (c :: rest)) then 0
    else wordLength inFlow rest + 1

/-- Whether a tab stands in the indentation of a line, left of `margin`. The line under way has no
indentation; in a later one `column?` tells how much of it has passed. -/
def tabInIndentation (margin : Nat) (column? : Option Nat) : List Char → Bool
  | [] => false
  | c :: rest =>
    if isLineEnd c then tabInIndentation margin (some 0) rest
    else
      match column? with
      | some n => (c == '\t' && n < margin) || tabInIndentation margin (some (n + 1)) rest
      | none => tabInIndentation margin none rest

/-- The words from a place on, where a word begins; `text` has those before, and `gap` stands
between. Words left of `margin` belong to an outer block, unless brackets hold them. The outcome is
the text, the place behind the last gap, and that gap. -/
def plainFrom? (inFlow : Bool) (margin : Nat) (text gap : List Char) (p : Place) :
    Option (List Char × Place × List Char) :=
  if p.atMarker || p.rest.head? == some '#' then some (text, p, gap)
  else
    let n := wordLength inFlow p.rest
    let behind := p.forward n
    let text := if n == 0 then text else text ++ folded gap ++ p.rest.take n
    let gap := if n == 0 then gap else []
    if inFlow && colonCollides behind.rest then none
    else if _ : behind.gap.length = 0 then some (text, behind, gap)
    else if tabInIndentation margin none behind.gap then none
    else
      let place := behind.forward behind.gap.length
      if !inFlow && place.column < margin then some (text, place, behind.gap)
      else plainFrom? inFlow margin text behind.gap place
termination_by p.rest.length
decreasing_by
  have hle : behind.rest.length ≤ p.rest.length := by
    simp only [behind, Place.rest_forward, List.length_drop]; omega
  have hgap : behind.gap.length ≤ behind.rest.length := (List.takeWhile_sublist _).length_le
  have hpos : 0 < behind.gap.length := Nat.pos_of_ne_zero ‹_›
  exact Nat.lt_of_lt_of_le (Place.length_forward_lt hpos (Nat.lt_of_lt_of_le hpos hgap)) hle

/-! ## Quoted scalars -/

/-- Between single quotes; a quote is written twice. A document cannot begin or end inside. -/
def singleQuotedFrom? (text : List Char) (p : Place) : Option (List Char × Place) :=
  match _ : p.rest with
  | [] => none
  | c :: rest =>
    if p.atMarker then none
    else if c == '\'' then
      if rest.head? == some '\'' then singleQuotedFrom? (text ++ ['\'']) (p.forward 2)
      else some (text, p.forward 1)
    else if _ : isSpacing c then
      singleQuotedFrom? (text ++ folded p.gap) (p.forward p.gap.length)
    else singleQuotedFrom? (text ++ [c]) (p.forward 1)
termination_by p.rest.length
decreasing_by
  all_goals
    have hp : p.rest = c :: rest := ‹_›
    have hlen : 0 < p.rest.length := by simp [hp]
    first
      | exact Place.length_forward_lt (by omega) hlen
      | exact Place.length_forward_lt (Place.gap_length_pos hp ‹_›) hlen

def escape? (c : Char) : Option Char :=
  match c with
  | '0' => some (Char.ofNat 0)
  | 'a' => some (Char.ofNat 0x7)
  | 'b' => some (Char.ofNat 0x8)
  | 't' => some '\t'
  | '\t' => some '\t'
  | 'n' => some '\n'
  | 'v' => some (Char.ofNat 0xB)
  | 'f' => some (Char.ofNat 0xC)
  | 'r' => some '\r'
  | 'e' => some (Char.ofNat 0x1B)
  | ' ' => some ' '
  | '"' => some '"'
  | '/' => some '/'
  | '\\' => some '\\'
  | 'N' => some (Char.ofNat 0x85)
  | '_' => some (Char.ofNat 0xA0)
  | 'L' => some (Char.ofNat 0x2028)
  | 'P' => some (Char.ofNat 0x2029)
  | _ => none

/-- How many hexadecimal digits a letter calls for behind a backslash. -/
def escapeDigits? (c : Char) : Option Nat :=
  match c with
  | 'x' => some 2
  | 'u' => some 4
  | 'U' => some 8
  | _ => none

def scalarValue? (n : Nat) : Option Char :=
  if h : n.isValidChar then some (Char.ofNatAux n h) else none

/-- What an escape stands for, and its length, both without the backslash. An escaped line end
stands for the further line ends of its gap. -/
def escaped? (s : List Char) : Option (List Char × Nat) :=
  match s with
  | [] => none
  | c :: rest =>
    if isLineEnd c then
      let gap := rest.takeWhile isSpacing
      some (gap.filter isLineEnd, gap.length + 1)
    else
      match escapeDigits? c with
      | some n => do
        if rest.length < n then none
        let value ← digits? 16 (rest.take n)
        return ([← scalarValue? value], n + 1)
      | none => (escape? c).map ([·], 1)

/-- Between double quotes. A document cannot begin or end inside. -/
def doubleQuotedFrom? (text : List Char) (p : Place) : Option (List Char × Place) :=
  match _ : p.rest with
  | [] => none
  | c :: rest =>
    if p.atMarker then none
    else if c == '"' then some (text, p.forward 1)
    else if c == '\\' then
      match escaped? rest with
      | some (s, n) => doubleQuotedFrom? (text ++ s) (p.forward (n + 1))
      | none => none
    else if _ : isSpacing c then
      doubleQuotedFrom? (text ++ folded p.gap) (p.forward p.gap.length)
    else doubleQuotedFrom? (text ++ [c]) (p.forward 1)
termination_by p.rest.length
decreasing_by
  all_goals
    have hp : p.rest = c :: rest := ‹_›
    have hlen : 0 < p.rest.length := by simp [hp]
    first
      | exact Place.length_forward_lt (by omega) hlen
      | exact Place.length_forward_lt (Place.gap_length_pos hp ‹_›) hlen

/-- The text of the quoted scalar that begins here, and the place behind it. -/
def quoted? (p : Place) : Option (List Char × Place) :=
  if p.rest.head? == some '"' then doubleQuotedFrom? [] (p.forward 1)
  else singleQuotedFrom? [] (p.forward 1)

end EntityMapper.Yaml
