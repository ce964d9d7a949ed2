import EntityMapper.Binary64.Shortest
import EntityMapper.Json.Basic

/-!
# JSON text

The compact text of a document: no blanks, members in their order, an escape only where the format
asks for one, and each number with a fraction as the shortest decimal that reads back.
-/

namespace EntityMapper.Json

/-- Positional from 0.00001 up to sixteen digits before the point, a signed power of ten outside. -/
def layout : Binary64.Layout where
  leastExponent := -5
  greatestExponent := 15

def escaped (c : Char) : List Char :=
  match c with
  | '"' => ['\\', '"']
  | '\\' => ['\\', '\\']
  | '\n' => ['\\', 'n']
  | '\r' => ['\\', 'r']
  | '\t' => ['\\', 't']
  | c =>
    if c.toNat == 0x8 then ['\\', 'b']
    else if c.toNat == 0xC then ['\\', 'f']
    else if c.toNat < 0x20 then
      ['\\', 'u', '0', '0', Nat.digitChar (c.toNat / 16), Nat.digitChar (c.toNat % 16)]
    else [c]

def stringChars (s : String) : List Char := '"' :: s.toList.flatMap escaped ++ ['"']

/-- A number. Infinities and patterns that are no number have no text of their own. -/
def Number.chars : Number → List Char
  | .int n => (toString n).toList
  | .real x => if x.isFinite then x.write layout else ['n', 'u', 'l', 'l']

mutual

def chars : Json → List Char
  | .null => ['n', 'u', 'l', 'l']
  | .bool true => ['t', 'r', 'u', 'e']
  | .bool false => ['f', 'a', 'l', 's', 'e']
  | .num n => n.chars
  | .str s => stringChars s
  | .arr [] => ['[', ']']
  | .arr (x :: rest) => '[' :: chars x ++ itemChars rest ++ [']']
  | .obj [] => ['\x7b', '\x7d']
  | .obj ((key, value) :: rest) =>
    '\x7b' :: stringChars key ++ ':' :: chars value ++ memberChars rest ++ ['\x7d']

def itemChars : List Json → List Char
  | [] => []
  | x :: rest => ',' :: chars x ++ itemChars rest

def memberChars : List (String × Json) → List Char
  | [] => []
  | (key, value) :: rest => ',' :: stringChars key ++ ':' :: chars value ++ memberChars rest

end

def text (json : Json) : String := String.ofList json.chars

end EntityMapper.Json
