import EntityMapper.Connection.Environments
import EntityMapper.Driver.Registry
import EntityMapper.Relation.Registry
import EntityMapper.Schema.Cache

/-!
# Managers

A manager holds one driver and everything that is done through it: reads, writes, and the loading of
relations. Each operation asks for the schema of its entity type first, so a missing table comes to
light before any statement is executed. A connection is opened when it is first needed.
-/

namespace EntityMapper

/-- A driver with what has been learnt about its database and the entity types. -/
structure Manager (δ : Type) where
  driver : δ
  schemas : SchemaCache := {}
  relations : RelationRegistry := {}
  naming : Naming := Naming.english

namespace Manager

variable {δ : Type} {α : Type}

/-! ## Parts of a manager -/

def onDriver (action : Action δ α) : Action (Manager δ) α :=
  action.on Manager.driver fun m driver => { m with driver }

def onRelations (action : Action RelationRegistry α) : Action (Manager δ) α :=
  action.on Manager.relations fun m relations => { m with relations }

/-- An action of the schema cache, which may ask the driver. -/
def onSchemas (action : Action (SchemaCache × δ) α) : Action (Manager δ) α :=
  action.on (fun m => (m.schemas, m.driver)) fun m (schemas, driver) => { m with schemas, driver }

/-! ## Making managers -/

/-- The manager of a connection, with the driver that a registry has for it. -/
def ofConnection (registry : DriverRegistry δ) (c : Connection) : Except Error (Manager δ) :=
  (registry.create c).map fun driver => { driver }

def ofEnvironments (registry : DriverRegistry δ) (e : Environments) : Except Error (Manager δ) := do
  ofConnection registry (← e.primaryConnection)

def ofEnvironment (registry : DriverRegistry δ) (e : Environments) (name : String) :
    Except Error (Manager δ) := do
  ofConnection registry (← e.connection name)

/-! ## The connection -/

variable [Driver δ]

def summary (m : Manager δ) : String :=
  let name := Text.quoted (Driver.name m.driver)
  s!"EntityManager \x7b driver: {name}, connected: {Driver.isConnected m.driver}, cached_schemas: {m.schemas.size} \x7d"

def connect : Action (Manager δ) Unit := onDriver Driver.connect

def disconnect : Action (Manager δ) Unit := onDriver Driver.disconnect

/-- Opens the connection unless it is open. -/
def ensureConnected : Action (Manager δ) Unit := do
  if ← Action.ask fun m => Driver.isConnected m.driver then pure () else connect

def run (statement : Statement) : Action (Manager δ) ResultSet := do
  ensureConnected
  onDriver (Driver.execute statement)

def execute (sql : String) (values : List Value) : Action (Manager δ) ResultSet :=
  run (.raw sql values)

def begin : Action (Manager δ) Unit := do
  ensureConnected
  onDriver (Driver.mark .begin)

def commit : Action (Manager δ) Unit := onDriver (Driver.mark .commit)

def rollback : Action (Manager δ) Unit := onDriver (Driver.mark .rollback)

/-! ## Schemas -/

/-- The schema of the entity type of this name, with its table if that is not the default one. -/
def schemaFor (entity : String) (table? : Option String) : Action (Manager δ) Schema := do
  ensureConnected
  let naming ← Action.ask Manager.naming
  onSchemas (SchemaCache.get entity table? naming)

def schema (type : EntityType) : Action (Manager δ) Schema := schemaFor type.name type.table?

end Manager

end EntityMapper
