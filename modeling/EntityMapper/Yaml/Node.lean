import EntityMapper.Dict

/-!
# YAML nodes

What a YAML text holds: scalars, sequences and mappings. A plain scalar is one without quotes; only
such a scalar can be null or a number. Every scalar can be read as text, and an empty plain one also
stands for an empty mapping.
-/

namespace EntityMapper

/-- A node of a YAML text. -/
inductive Yaml where
  | scalar (plain : Bool) (text : String)
  | sequence (items : List Yaml)
  | mapping (entries : List (Yaml × Yaml))
deriving Repr

namespace Yaml

def nothing : Yaml := .scalar true ""

instance : Inhabited Yaml := ⟨nothing⟩

def text? : Yaml → Option String
  | .scalar _ text => some text
  | _ => none

/-- Whether the node is null: a plain scalar that is empty or written as null. -/
def isNull : Yaml → Bool
  | .scalar true text => text ∈ ["", "~", "null", "Null", "NULL"]
  | _ => false

/-- The node through a reader, unless the node is null. The outer `none` is a failure. -/
def optional? {α : Type} (read? : Yaml → Option α) (node : Yaml) : Option (Option α) :=
  if node.isNull then some none else (read? node).map some

/-- The value of a digit in bases up to 16. -/
def digitValue? (base : Nat) (c : Char) : Option Nat :=
  let n :=
    if c.isDigit then c.toNat - '0'.toNat
    else if 'a' ≤ c.toLower && c.toLower ≤ 'f' then c.toLower.toNat - 'a'.toNat + 10
    else base
  if n < base then some n else none

/-- Digits in a base; there has to be at least one. -/
def digits? (base : Nat) (s : List Char) : Option Nat :=
  if s.isEmpty then none
  else (s.mapM (digitValue? base)).map (·.foldl (fun n d => n * base + d) 0)

/-- An unsigned integer: decimal without a superfluous zero, or hexadecimal, octal or binary behind
its mark, after an optional plus sign. -/
def unsigned? : Yaml → Option Nat
  | .scalar true text =>
    let s :=
      match text.toList with
      | '+' :: rest => rest
      | s => s
    match s with
    | '0' :: 'x' :: rest => digits? 16 rest
    | '0' :: 'o' :: rest => digits? 8 rest
    | '0' :: 'b' :: rest => digits? 2 rest
    | '0' :: _ :: _ => none
    | s => digits? 10 s
  | _ => none

def entries? : Yaml → Option (List (String × Yaml))
  | .mapping entries => entries.mapM fun (key, value) => key.text?.map (·, value)
  | .scalar true "" => some []
  | _ => none

/-- The entries of a record with the given fields: a mapping in which no field occurs twice. -/
def record? (fields : List String) (node : Yaml) : Option (List (String × Yaml)) := do
  let entries ← node.entries?
  if fields.any fun field => 1 < (entries.filter (·.1 == field)).length then none else some entries

/-- A dictionary of what a reader makes of the values. -/
def dict? {α : Type} (read? : Yaml → Option α) (node : Yaml) : Option (Dict α) := do
  let entries ← node.entries?
  return Dict.ofList (← entries.mapM fun (key, value) => (read? value).map (key, ·))

end Yaml

end EntityMapper
