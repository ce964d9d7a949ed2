/-!
# Schemas

What a database says about a table: its columns and which of them is the key. The schema of an
entity type is that of the table in which its instances are kept.
-/

namespace EntityMapper

/-- A column of a table. -/
structure Column where
  name : String
  /-- The type as the database writes it. -/
  type : String
  isNullable : Bool := true
  isKey : Bool := false
  /-- The default as the database writes it. -/
  default? : Option String := none
deriving DecidableEq, Repr

namespace Column

def notNull (c : Column) : Column := { c with isNullable := false }

/-- The column as a key, which holds no nulls. -/
def key (c : Column) : Column := { c with isKey := true, isNullable := false }

end Column

/-- A table with its columns in their order. -/
structure Table where
  name : String
  columns : List Column
deriving DecidableEq, Repr

/-- The table that belongs to an entity type. -/
structure Schema where
  /-- The name of the entity type. -/
  entity : String
  table : String
  columns : List Column
  /-- The name of the key column. -/
  key : String
deriving DecidableEq, Repr

namespace Schema

def column? (s : Schema) (name : String) : Option Column := s.columns.find? (·.name == name)

def hasColumn (s : Schema) (name : String) : Bool := (s.column? name).isSome

def columnNames (s : Schema) : List String := s.columns.map Column.name

end Schema

end EntityMapper
