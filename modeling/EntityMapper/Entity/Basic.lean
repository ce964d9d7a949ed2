import EntityMapper.Entity.Record
import EntityMapper.Entity.Slots
import EntityMapper.Relation.Basic

/-!
# Entities

An entity type ties a shape to a table and declares the relations of its instances. An entity is an
instance: a record together with the slots of its relations. Slots are no part of the record; an
entity that has just been read has all of them unresolved.
-/

namespace EntityMapper

/-- A type of entities. -/
structure EntityType where
  /-- The name, from which default names are derived. -/
  name : String
  /-- The qualified name, which tells types of one name apart. -/
  typeName : String
  /-- The table, if it is not the default one. -/
  table? : Option String := none
  shape : Shape
  /-- The relations in the order of their declaration. -/
  relations : List Relation := []

/-- An instance of an entity type. -/
structure Entity where
  record : Record
  slots : Slots Record := .empty

def EntityType.target (type : EntityType) : Target where
  entity := type.name
  table? := type.table?
  typeName := type.typeName

/-- The name of the table in a message, where the table itself is not known. -/
def EntityType.tableHint (type : EntityType) : String := type.table?.getD type.name

/-! ## Reading entities -/

def EntityType.ofJson (type : EntityType) (json : Json) : Except Error Entity :=
  match Record.read type.name type.shape json with
  | .ok record => .ok { record }
  | .error fault => .error (.hydration fault.message)

def EntityType.ofRow (type : EntityType) (row : Row) : Except Error Entity :=
  match Record.read type.name type.shape row.toJson with
  | .ok record => .ok { record }
  | .error fault => .error (.hydration s!"Cannot hydrate {type.name}: {fault.message}")

/-- The entities of some rows; the first row that is none is reported. -/
def EntityType.hydrate (type : EntityType) (rows : List Row) : Except Error (List Entity) :=
  rows.mapM type.ofRow

end EntityMapper
