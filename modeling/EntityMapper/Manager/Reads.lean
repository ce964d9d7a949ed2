import EntityMapper.Condition.Criteria
import EntityMapper.Manager.Basic

/-!
# Reads

Entities are found by a query, by criteria, or by ready-made SQL, and counted by criteria. Criteria
are read before anything is asked of the driver.
-/

namespace EntityMapper.Manager

variable {δ : Type} [Driver δ]

/-- The entities that a query reads. A query without a table reads that of the entity type. -/
def find (type : EntityType) (query : Query) : Action (Manager δ) (List Entity) := do
  let schema ← schema type
  let table := query.table?.getD schema.table
  let result ← run (.select table (query.withTable table))
  Action.ofExcept (type.hydrate result.rows)

def findOne (type : EntityType) (query : Query) : Action (Manager δ) (Option Entity) := do
  return (← find type (query.withLimit 1)).head?

def findBy (type : EntityType) (criteria : Criteria) : Action (Manager δ) (List Entity) := do
  let conditions ← Action.ofExcept criteria.read
  find type (Query.withConditions {} conditions)

def findOneBy (type : EntityType) (criteria : Criteria) : Action (Manager δ) (Option Entity) := do
  let conditions ← Action.ofExcept criteria.read
  findOne type (Query.withConditions {} conditions)

def findBySql (type : EntityType) (sql : String) (values : List Value) :
    Action (Manager δ) (List Entity) := do
  let _ ← schema type
  let result ← execute sql values
  Action.ofExcept (type.hydrate result.rows)

/-- The number in the first row of a count: that of the column `count`, or else of the first column.
-/
def countIn (table : String) (result : ResultSet) : Except Error Nat :=
  match result.rows with
  | [] => .error (.query s!"COUNT on '{table}' returned no row")
  | row :: _ =>
    match ((row.get? "count").or (row.at? 0)).bind Value.asInt? with
    | some n => .ok n.toNat
    | none => .error (.query s!"COUNT on '{table}' returned a non-integer")

def count (type : EntityType) (criteria : Criteria) : Action (Manager δ) Nat := do
  let conditions ← Action.ofExcept criteria.read
  let schema ← schema type
  let result ← run (.count schema.table ((Query.ofTable schema.table).withConditions conditions))
  Action.ofExcept (countIn schema.table result)

end EntityMapper.Manager
