import EntityMapper.Url.Fault
import EntityMapper.Url.Name

/-!
# Hosts

The host of a URL, in the form in which the URL keeps it. An address of eight groups stands between
brackets and is written in its shortest form. For schemes that are not those of the web any other
host is a name that only has to be free of punctuation. For the schemes of the web a host that ends
in a number has to be an address of four numbers.
-/

namespace EntityMapper.Url

/-! ## Addresses of eight groups -/

def ipv6Group? (s : List Char) : Option Nat :=
  if s.isEmpty || 4 < s.length then none
  else (s.mapM hexValue?).map (·.foldl (fun n d => n * 16 + d) 0)

/-- A number below 256 in decimal without a superfluous zero. -/
def octet? (s : List Char) : Option Nat :=
  if s.isEmpty || !s.all Char.isDigit || (1 < s.length && s.head? == some '0') then none
  else
    let n := s.foldl (fun n c => n * 10 + (c.toNat - '0'.toNat)) 0
    if n < 256 then some n else none

/-- The last two groups, written as four numbers. -/
def embeddedIpv4? (s : List Char) : Option (List Nat) := do
  match ← (s.splitOn '.').mapM octet? with
  | [a, b, c, d] => some [a * 256 + b, c * 256 + d]
  | _ => none

/-- Groups with colons between them. Where the address ends, the last part may be four numbers. -/
def groups? (atEnd : Bool) : List (List Char) → Option (List Nat)
  | [] => some []
  | [part] =>
    if atEnd && part.contains '.' then embeddedIpv4? part else (ipv6Group? part).map ([·])
  | part :: rest => do return (← ipv6Group? part) :: (← groups? atEnd rest)

def groupsOf? (atEnd : Bool) (s : List Char) : Option (List Nat) :=
  if s.isEmpty then some [] else groups? atEnd (s.splitOn ':')

def aroundDoubleColon : List Char → Option (List Char × List Char)
  | ':' :: ':' :: rest => some ([], rest)
  | c :: rest => (aroundDoubleColon rest).map fun (before, after) => (c :: before, after)
  | [] => none

/-- The eight groups of an address. Two colons in a row stand for one or more groups of zero. -/
def ipv6? (s : List Char) : Option (List Nat) :=
  match aroundDoubleColon s with
  | none => do
    let groups ← groupsOf? true s
    if groups.length == 8 then some groups else none
  | some (before, after) => do
    -- four numbers may only end the whole address, so never the part before the colons
    let head ← groupsOf? false before
    let tail ← groupsOf? true after
    if head.length + tail.length ≤ 7 then
      some (head ++ List.replicate (8 - head.length - tail.length) 0 ++ tail)
    else none

def zeroRun (groups : List Nat) : Nat := (groups.takeWhile (· == 0)).length

/-- Where the first of the longest runs of zeros begins, and how long it is. -/
def longestZeroRun (groups : List Nat) : Nat × Nat :=
  (List.range groups.length).foldl
    (fun best i =>
      let n := zeroRun (groups.drop i)
      if best.2 < n then (i, n) else best)
    (0, 0)

def groupChars (groups : List Nat) : List Char :=
  List.intercalate [':'] (groups.map (Nat.toDigits 16))

/-- An address in its shortest form: the first longest run of at least two zeros is left out. -/
def ipv6Chars (groups : List Nat) : List Char :=
  let (start, length) := longestZeroRun groups
  if length < 2 then groupChars groups
  else groupChars (groups.take start) ++ [':', ':'] ++ groupChars (groups.drop (start + length))

def bracketed (s : List Char) : Except Fault (List Char) :=
  if s.getLast? != some ']' then .error .ipv6Address
  else
    match ipv6? s.dropLast with
    | some groups => .ok ('[' :: ipv6Chars groups ++ [']'])
    | none => .error .ipv6Address

/-! ## Hosts beyond the web -/

def plainHost (s : List Char) : Except Fault (List Char) :=
  match s with
  | '[' :: rest => bracketed rest
  | s =>
    if s.any isForbiddenInHost then .error .hostCharacter else .ok (encode isOpaqueEncoded s)

/-! ## Hosts of the web -/

/-- A number of an address: decimal, or octal behind a zero, or hexadecimal behind `0x`. The outer
`none` is no number, the inner one a number beyond 32 bits. -/
def addressNumber? (s : List Char) : Option (Option Nat) :=
  let (base, digits) :=
    match s with
    | '0' :: 'x' :: rest => (16, rest)
    | '0' :: 'X' :: rest => (16, rest)
    | '0' :: d :: rest => (8, d :: rest)
    | s => (10, s)
  if s.isEmpty then none
  else do
    let values ← digits.mapM hexValue?
    if values.any (base ≤ ·) then none
    else
      let n := values.foldl (fun n d => n * base + d) 0
      some (if n < UInt32.size then some n else none)

/-- The parts of a name, less an empty one at the end. -/
def nameParts (s : List Char) : List (List Char) :=
  let parts := s.splitOn '.'
  if 1 < parts.length && parts.getLast? == some [] then parts.dropLast else parts

def endsInNumber (s : List Char) : Bool :=
  match (nameParts s).getLast? with
  | none => false
  | some last => (!last.isEmpty && last.all Char.isDigit) || (addressNumber? last).isSome

/-- The four octets of an address. The last number stands for all octets that are not written. -/
def ipv4 (s : List Char) : Except Fault (List Nat) := do
  let parts := nameParts s
  if 4 < parts.length then throw .ipv4Address
  let numbers ← parts.mapM fun part =>
    match addressNumber? part with
    | some (some n) => .ok n
    | _ => .error .ipv4Address
  match numbers.reverse with
  | [] => throw .ipv4Address
  | last :: front =>
    -- each number in front is one octet, the last one fills the rest
    if front.any (255 < ·) || Nat.pow 256 (4 - front.length) ≤ last then throw .ipv4Address
    let spread := (List.range (4 - front.length)).reverse.map fun i => last / Nat.pow 256 i % 256
    return front.reverse ++ spread

def webHost (s : List Char) : Except Fault (List Char) :=
  match s with
  | '[' :: rest => bracketed rest
  | s =>
    match name? (Text.ofOctets (decodeOctets s)) with
    | none => .error .internationalName
    | some name =>
      if name.isEmpty then .error .emptyHost
      else if endsInNumber name then do
        let octets ← ipv4 name
        return List.intercalate ['.'] (octets.map (Nat.toDigits 10))
      else .ok (encode isOpaqueEncoded name)

end EntityMapper.Url
