import EntityMapper.Condition.Criteria
import EntityMapper.Manager.Basic
import EntityMapper.Relation.Plan

/-!
# Writes

Entities are created, updated and deleted through the table of their type. Columns are checked
against the schema before a statement is executed, and an update or delete by criteria that restrict
nothing is refused before the driver is asked for anything.

Deleting owners first deletes what depends on them: relation after relation in the order of the
declarations, and within a relation owner after owner in the order of the rows.
-/

namespace EntityMapper.Manager

variable {δ : Type} [Driver δ]

/-- Refuses fields that the table has no column for. -/
def checkColumns (schema : Schema) (fields : Fields) : Except Error Unit :=
  match fields.keys.find? fun column => !schema.hasColumn column with
  | some column =>
    .error (.missingSchema schema.entity
      s!"column '{column}' does not exist on table '{schema.table}'")
  | none => .ok ()

/-! ## Creating -/

def ownKey? (schema : Schema) (fields : Fields) : Option Value :=
  (fields.get? schema.key).filter fun v => !v.isNull

/-- Inserts a row, and answers its key: the one in the fields, or else the one that was generated.
-/
def create (type : EntityType) (fields : Fields) : Action (Manager δ) (Option Value) := do
  let schema ← schema type
  Action.ofExcept (checkColumns schema fields)
  -- the schema was asked for on an open connection, so the driver is used as it is
  let result ← onDriver (Driver.insert schema.table fields)
  match (ownKey? schema fields).or result.lastInsertId with
  | some key => return some key
  | none => onDriver Driver.lastInsertId

/-- The fields of a new entity: a null key is left out, so that the backend generates one. -/
def newFields (schema : Schema) (fields : Fields) : Fields :=
  if (fields.get? schema.key).any Value.isNull then fields.erase schema.key else fields

def insert (type : EntityType) (entity : Entity) : Action (Manager δ) (Option Value) := do
  let schema ← schema type
  let fields ← Action.ofExcept entity.record.fields
  create type (newFields schema fields)

/-! ## Updating -/

def updateRows (type : EntityType) (conditions : Condition) (fields : Fields) (everyRow : Bool) :
    Action (Manager δ) Nat := do
  Action.ofExcept (Driver.guardConditions "update" type.tableHint conditions everyRow)
  let schema ← schema type
  Action.ofExcept (checkColumns schema fields)
  onDriver (Driver.update schema.table conditions fields everyRow)

def update (type : EntityType) (criteria : Criteria) (fields : Fields) :
    Action (Manager δ) Nat := do
  let conditions ← Action.ofExcept criteria.read
  updateRows type conditions fields false

def updateAll (type : EntityType) (fields : Fields) : Action (Manager δ) Nat :=
  updateRows type .empty fields true

/-! ## Deleting -/

def deleteRelated (r : Relation) (owner target : Schema) (row : Row) : Action (Manager δ) Unit := do
  let naming ← Action.ask Manager.naming
  match ← Action.ofExcept (r.removal naming owner target row.toJson) with
  | none => return ()
  | some removal => do
    let _ ← onDriver (Driver.delete removal.table removal.conditions false)

def deleteDependents (owner : Schema) (owners : List Row) (r : Relation) :
    Action (Manager δ) Unit := do
  let target ← schemaFor r.target.entity r.target.table?
  owners.forM (deleteRelated r owner target)

/-- Deletes everything that depends on the rows under some conditions. -/
def deleteAllDependents (type : EntityType) (schema : Schema) (conditions : Condition) :
    Action (Manager δ) Unit := do
  let declared ← onRelations (RelationRegistry.declarations type)
  match declared.relations.filter Relation.removesRows with
  | [] => return ()
  | dependents => do
    -- the owners are read once, before anything is deleted
    let query := (Query.ofTable schema.table).withConditions conditions
    let owners ← run (.select schema.table query)
    dependents.forM (deleteDependents schema owners.rows)

def deleteRows (type : EntityType) (conditions : Condition) (everyRow : Bool) :
    Action (Manager δ) Nat := do
  Action.ofExcept (Driver.guardConditions "delete" type.tableHint conditions everyRow)
  let schema ← schema type
  deleteAllDependents type schema conditions
  onDriver (Driver.delete schema.table conditions everyRow)

def delete (type : EntityType) (criteria : Criteria) : Action (Manager δ) Nat := do
  let conditions ← Action.ofExcept criteria.read
  deleteRows type conditions false

def deleteAll (type : EntityType) : Action (Manager δ) Nat := deleteRows type .empty true

end EntityMapper.Manager
