import EntityMapper.Condition.Basic

/-!
# Conditions written as JSON

A map is the conjunction of its entries, in the order in which they are written. The key of an entry
says what its value is:

* a connective opens a group, whose conditions are the items of a list or the entries of a map;
* a position, which is a number in decimal, holds ready-made SQL or an unwritten conjunction;
* anything else is a field token, compared with a scalar or with a list of scalars.

A list is the conjunction of its items, a text is ready-made SQL, and null restricts nothing.
-/

namespace EntityMapper.Condition

/-- Why a document is no condition. -/
inductive Fault where
  | notAMap (json : Json)
  | notAGroup (key : String) (json : Json)
  | notAtPosition (key : String) (json : Json)
  | nestedList (key : String)
  | comparedWithMap (key : String)
  | token (fault : FieldToken.Fault)

def Fault.error : Fault → Error
  | .notAMap json => .condition s!"Expected a condition map, got '{json.text}'"
  | .notAGroup key json =>
    .condition s!"'{key}' expects a list or map of conditions, got '{json.text}'"
  | .notAtPosition key json =>
    .condition
      s!"Positional condition '{key}' must be SQL text or a nested group, got '{json.text}'"
  | .nestedList key => .condition s!"List for '{key}' may only contain scalars"
  | .comparedWithMap key => .condition s!"Field '{key}' cannot be compared against a map"
  | .token fault => fault.error

/-- Whether a key is a position: decimal digits, perhaps behind a plus sign, of a number below `2 ^
64`. Blanks around it do not count. -/
def isPosition (key : String) : Bool :=
  let s := Text.trim key.toList
  let digits :=
    match s with
    | '+' :: rest => rest
    | _ => s
  !digits.isEmpty && digits.all Char.isDigit
    && digits.foldl (fun n c => n * 10 + (c.toNat - '0'.toNat)) 0 < UInt64.size

def operand (key : String) : Json → Except Fault Operand
  | .arr items => do
    let values ← items.mapM fun
      | .arr _ => .error (.nestedList key)
      | .obj _ => .error (.nestedList key)
      | scalar => .ok (Value.ofJson scalar)
    return .oneOf values
  | .obj _ => .error (.comparedWithMap key)
  | scalar => .ok (.scalar (Value.ofJson scalar))

/-- The comparison that a field token and its value make up. Faults of the value are found first. -/
def comparisonOf (key : String) (json : Json) : Except Fault Condition := do
  let right ← operand key json
  match FieldToken.read key with
  | .ok t => return .compare t.field t.comparison right
  | .error fault => .error (.token fault)

/-- The condition of an entry whose value is neither text, list nor map. -/
def ofScalar (key : String) (json : Json) : Except Fault Condition :=
  if (Connective.ofKey? key).isSome then .error (.notAGroup key json)
  else if isPosition key then .error (.notAtPosition key json)
  else comparisonOf key json

mutual

def ofDocument : Json → Except Fault Condition
  | .null => .ok empty
  | .obj members => return .all (← ofEntries members)
  | .arr items => return .all (← ofItems items)
  | .str sql => .ok (.raw sql [])
  | .bool b => .error (.notAMap (.bool b))
  | .num n => .error (.notAMap (.num n))

def ofItems : List Json → Except Fault (List Condition)
  | [] => .ok []
  | item :: rest => return (← ofDocument item) :: (← ofItems rest)

def ofEntries : List (String × Json) → Except Fault (List Condition)
  | [] => .ok []
  | (key, value) :: rest => return (← ofEntry key value) :: (← ofEntries rest)

def ofEntry (key : String) : Json → Except Fault Condition
  | .arr items =>
    match Connective.ofKey? key with
    | some connective => return .group connective (← ofItems items)
    | none =>
      if isPosition key then return .all (← ofItems items) else comparisonOf key (.arr items)
  | .obj members =>
    match Connective.ofKey? key with
    | some connective => return .group connective (← ofEntries members)
    | none =>
      if isPosition key then return .all (← ofEntries members) else comparisonOf key (.obj members)
  | .str sql =>
    if (Connective.ofKey? key).isSome then .error (.notAGroup key (.str sql))
    else if isPosition key then .ok (.raw sql [])
    else comparisonOf key (.str sql)
  | .null => ofScalar key .null
  | .bool b => ofScalar key (.bool b)
  | .num n => ofScalar key (.num n)

end

/-- The condition that a document stands for, with the error if it is none. -/
def ofJson (json : Json) : Except Error Condition :=
  (ofDocument json).mapError Fault.error

end EntityMapper.Condition
