import EntityMapper.Dict
import EntityMapper.Error
import EntityMapper.Value.Basic

/-!
# Rows and fields

A row comes from the database and keeps its cells in the order of the select list, in which a column
name may occur more than once. Fields go to the database; they are a dictionary, so that the same
fields always make up the same statement.
-/

namespace EntityMapper

/-- A fetched row. -/
structure Row where
  /-- Columns with their values, in the order of the select list. -/
  cells : List (String × Value)
deriving Repr

namespace Row

def empty : Row := ⟨[]⟩

def push (row : Row) (column : String) (value : Value) : Row := ⟨row.cells ++ [(column, value)]⟩

def get? (row : Row) (column : String) : Option Value :=
  (row.cells.find? (·.1 == column)).map Prod.snd

def at? (row : Row) (index : Nat) : Option Value := (row.cells[index]?).map Prod.snd

def columns (row : Row) : List String := row.cells.map Prod.fst

/-- The row as an object; of cells with one column name the last one counts. -/
def toJson (row : Row) : Json := Json.ofEntries (row.cells.map fun (c, v) => (c, v.toJson))

end Row

/-- What a statement answers. -/
structure ResultSet where
  rows : List Row := []
  /-- The number of rows that a write touched. -/
  affected : Nat := 0
  /-- The identifier that the backend generated for an inserted row. -/
  lastInsertId : Option Value := none
deriving Repr

instance : Inhabited ResultSet := ⟨{}⟩

/-- Values by column name, to be written to a row. -/
abbrev Fields := Dict Value

namespace Fields

/-- The fields that the members of an object make up. -/
def ofMembers (members : List (String × Json)) : Fields :=
  Dict.ofList (members.map fun (column, value) => (column, Value.ofJson value))

/-- The fields that a document stands for; only an object does. -/
def ofJson : Json → Except Error Fields
  | .obj members => .ok (ofMembers members)
  | other => .error (.query s!"Field values must be a JSON object, got {other.text}")

end Fields

end EntityMapper
