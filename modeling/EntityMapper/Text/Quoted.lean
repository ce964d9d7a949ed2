import EntityMapper.Text.Case
import EntityMapper.Text.QuotedTable

/-!
# Quoted text

The form in which a text stands inside a message: between double quotes, with a backslash before
quotes and backslashes, and with an escape in place of everything that could not be told apart on
paper. Such characters are written by their code point between braces.
-/

namespace EntityMapper.Text

/-- Characters that show nothing of their own, or that melt into the character before them. The
plain space is none of them. -/
def isConcealed (c : Char) : Bool :=
  if c.toNat < 0x80 then c.toNat < 0x20 || c.toNat == 0x7F
  else withinEdges QuotedTable.extending c.toNat || withinEdges QuotedTable.unprintable c.toNat

def quotedChar (c : Char) : List Char :=
  match c with
  | '\x00' => ['\\', '0']
  | '\t' => ['\\', 't']
  | '\r' => ['\\', 'r']
  | '\n' => ['\\', 'n']
  | '"' => ['\\', '"']
  | '\\' => ['\\', '\\']
  | c =>
    if isConcealed c then ['\\', 'u', '\x7b'] ++ Nat.toDigits 16 c.toNat ++ ['\x7d'] else [c]

def quoted (s : String) : String :=
  String.ofList ('"' :: s.toList.flatMap quotedChar ++ ['"'])

end EntityMapper.Text
