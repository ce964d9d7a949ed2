import EntityMapper.Driver.Basic
import EntityMapper.Naming

/-!
# The schema cache

The schema of an entity type is asked of the driver once and kept. It is kept until it is taken out:
a table that changes later keeps its old schema here, and what fails is not kept, so the next
request asks again.
-/

namespace EntityMapper

namespace Schema

/-- The table that is meant by a name: the first one of that name, in any ASCII case. -/
def tableNamed (entity expected : String) (tables : List String) : Except Error String :=
  match tables.find? fun t => t == expected || Text.sameIgnoringAsciiCase t expected with
  | some table => .ok table
  | none => .error (.missingTable entity expected)

/-- The schema that a table and its columns make up. The first key column counts. -/
def ofColumns (entity table : String) (columns : List Column) : Except Error Schema :=
  match columns.find? Column.isKey with
  | some c => .ok { entity, table, columns, key := c.name }
  | none => .error (.missingSchema entity s!"table '{table}' has no primary key column")

/-- The schema of an entity type as the driver describes its table. -/
def introspect {δ : Type} [Driver δ] (entity expected : String) : Action δ Schema := do
  let table ← Action.ofExcept (tableNamed entity expected (← Driver.listTables))
  let columns ← Driver.listColumns table
  Action.ofExcept (ofColumns entity table columns)

end Schema

/-- The schemas that are known, by the name of the entity type. -/
structure SchemaCache where
  schemas : Dict Schema := .empty

namespace SchemaCache

instance : Inhabited SchemaCache := ⟨{}⟩

def cached? (cache : SchemaCache) (entity : String) : Option Schema := cache.schemas.get? entity

def insert (cache : SchemaCache) (schema : Schema) : SchemaCache :=
  ⟨cache.schemas.insert schema.entity schema⟩

def invalidate (cache : SchemaCache) (entity : String) : SchemaCache := ⟨cache.schemas.erase entity⟩

def size (cache : SchemaCache) : Nat := cache.schemas.size

def isEmpty (cache : SchemaCache) : Bool := cache.schemas.isEmpty

variable {δ : Type} [Driver δ]

/-- The schema of an entity type. Unless it is known, the driver is asked for the given table, or
else for the one that the naming convention gives. -/
def get (entity : String) (table? : Option String) (naming : Naming) :
    Action (SchemaCache × δ) Schema :=
  Action.ofRun fun (cache, driver) =>
    match cache.cached? entity with
    | some schema => (.ok schema, cache, driver)
    | none =>
      match (Schema.introspect entity (table?.getD (naming.tableName entity))).perform driver with
      | (.ok schema, driver) => (.ok schema, cache.insert schema, driver)
      | (.error e, driver) => (.error e, cache, driver)

variable {entity : String} {table? : Option String} {naming : Naming} {cache : SchemaCache}

/-- A known schema is answered without the driver. -/
theorem perform_get_of_known {schema : Schema} (h : cache.cached? entity = some schema)
    (driver : δ) :
    (get entity table? naming).perform (cache, driver) = (.ok schema, cache, driver) := by
  simp [get, h]

/-- An unknown schema is what the driver describes, and is kept if there is one. -/
theorem perform_get_of_unknown (h : cache.cached? entity = none) (driver : δ) :
    (get entity table? naming).perform (cache, driver) =
      match (Schema.introspect entity (table?.getD (naming.tableName entity))).perform driver with
      | (.ok schema, driver) => (.ok schema, cache.insert schema, driver)
      | (.error e, driver) => (.error e, cache, driver) := by
  simp [get, h]

end SchemaCache

end EntityMapper
