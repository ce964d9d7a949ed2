/-!
# Universally unique identifiers

Identifiers of 128 bits. They are written as lower-case hexadecimal digits in groups of 8, 4, 4, 4
and 12, and read in either case, with or without the hyphens.
-/

namespace EntityMapper

/-- An identifier of 128 bits. -/
structure Uuid where
  value : BitVec 128
deriving DecidableEq, Repr

namespace Uuid

def digits (u : Uuid) : List Char :=
  let shown := Nat.toDigits 16 u.value.toNat
  List.replicate (32 - shown.length) '0' ++ shown

def text (u : Uuid) : String :=
  let d := u.digits
  String.ofList (d.take 8 ++ '-' :: (d.drop 8).take 4 ++ '-' :: (d.drop 12).take 4
    ++ '-' :: (d.drop 16).take 4 ++ '-' :: d.drop 20)

def digitValue? (c : Char) : Option Nat :=
  if c.isDigit then some (c.toNat - '0'.toNat)
  else if 'a' ≤ c.toLower && c.toLower ≤ 'f' then some (c.toLower.toNat - 'a'.toNat + 10)
  else none

def read? (s : String) : Option Uuid := do
  let values ← (s.toList.filter (· != '-')).mapM digitValue?
  if values.length == 32 then
    some ⟨BitVec.ofNat 128 (values.foldl (fun n d => n * 16 + d) 0)⟩
  else none

end Uuid

end EntityMapper
