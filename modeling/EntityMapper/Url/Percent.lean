import EntityMapper.Text.Utf8

/-!
# Percent encoding

Characters that would be taken for punctuation of a URL are written as their octets, two hexadecimal
digits each behind a percent sign. Which characters these are depends on the part of the URL. A
percent sign in front of anything else stands for itself.

The options of a query are a form: pairs joined by ampersands, with a plus sign for a space.
-/

namespace EntityMapper.Url

/-! ## What is encoded where

Characters beyond ASCII are encoded everywhere. -/

/-- Controls and characters beyond ASCII: encoded in every part. -/
def isOpaqueEncoded (c : Char) : Bool := c.toNat < 0x20 || 0x7F ≤ c.toNat

def isFragmentEncoded (c : Char) : Bool :=
  isOpaqueEncoded c || c == ' ' || c == '"' || c == '<' || c == '>' || c.toNat == 0x60

def isQueryEncoded (c : Char) : Bool :=
  isOpaqueEncoded c || c == ' ' || c == '"' || c == '#' || c == '<' || c == '>'

def isPathEncoded (c : Char) : Bool :=
  isFragmentEncoded c || c == '#' || c == '?' || c == '\x7b' || c == '\x7d'

def isUserEncoded (c : Char) : Bool :=
  isPathEncoded c || c == '/' || c == ':' || c == ';' || c == '=' || c == '@' || c == '['
    || c == '\\'
    || c == ']' || c == '^' || c == '|'

/-- Encoded in a name or a value of a form; the space has a form of its own. -/
def isFormEncoded (c : Char) : Bool :=
  !(c.isAlphanum || c == '*' || c == '-' || c == '.' || c == '_')

/-! ## Encoding -/

def hexCapital (n : Nat) : Char := (Nat.digitChar n).toUpper

def encodeOctet (b : Nat) : List Char := ['%', hexCapital (b / 16), hexCapital (b % 16)]

def encode (isEncoded : Char → Bool) (s : List Char) : List Char :=
  s.flatMap fun c => if isEncoded c then (Text.octets c).flatMap encodeOctet else [c]

def encodeForm (s : List Char) : List Char :=
  s.flatMap fun c => if c == ' ' then ['+'] else encode isFormEncoded [c]

def formOf (pairs : List (String × String)) : List Char :=
  List.intercalate ['&'] (pairs.map fun (name, value) =>
    encodeForm name.toList ++ '=' :: encodeForm value.toList)

/-! ## Decoding -/

def hexValue? (c : Char) : Option Nat :=
  if c.isDigit then some (c.toNat - '0'.toNat)
  else if 'a' ≤ c && c ≤ 'f' then some (c.toNat - 'a'.toNat + 10)
  else if 'A' ≤ c && c ≤ 'F' then some (c.toNat - 'A'.toNat + 10)
  else none

def decodeOctets : List Char → List Nat
  | '%' :: a :: b :: rest =>
    match hexValue? a, hexValue? b with
    | some high, some low => (high * 16 + low) :: decodeOctets rest
    | _, _ => '%'.toNat :: decodeOctets (a :: b :: rest)
  | c :: rest => Text.octets c ++ decodeOctets rest
  | [] => []

/-- A name or a value of a form, read back. -/
def decodeForm (s : List Char) : List Char :=
  Text.ofOctets (decodeOctets (s.map fun c => if c == '+' then ' ' else c))

/-- The pairs of a form. Between two ampersands there may be nothing; a name without equals sign has
an empty value. -/
def formPairs (s : List Char) : List (String × String) :=
  ((s.splitOn '&').filter fun pair => !pair.isEmpty).map fun pair =>
    (String.ofList (decodeForm (pair.takeWhile (· != '='))),
      String.ofList (decodeForm ((pair.dropWhile (· != '=')).drop 1)))

end EntityMapper.Url
