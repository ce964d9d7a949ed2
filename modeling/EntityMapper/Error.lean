/-!
# Errors

What can go wrong between an entity and its table, and the sentence that reports it. A backend
reports failures of its own in the same form.
-/

namespace EntityMapper

/-- Why an operation was refused or failed. -/
inductive Error where
  /-- The table expected for an entity type is not in the database. -/
  | missingTable (entity table : String)
  /-- The table is there, but lacks a column or a key. -/
  | missingSchema (entity detail : String)
  /-- No driver goes by this identifier. -/
  | missingDriver (identifier : String)
  /-- There are no settings for a connection, or it is not open. -/
  | missingConnection (detail : String)
  /-- The entity type declares no relation of this name. -/
  | unknownProperty (entity property : String)
  /-- The backend failed to execute a statement. -/
  | driver (detail : String)
  /-- An update or delete came without any condition. -/
  | unconditionalMutation (operation table : String)
  /-- Conditions are not of the form that the mapper reads. -/
  | condition (detail : String)
  /-- A statement cannot be put together from its description. -/
  | query (detail : String)
  /-- A relation is declared wrongly, or holds another type. -/
  | relation (detail : String)
  /-- A row does not decode into an entity. -/
  | hydration (detail : String)
  /-- The settings of a connection are invalid. -/
  | configuration (detail : String)
deriving DecidableEq, Repr

def Error.kind : Error → String
  | .missingTable _ _ => "MissingTable"
  | .missingSchema _ _ => "MissingSchema"
  | .missingDriver _ => "MissingDriver"
  | .missingConnection _ => "MissingConnection"
  | .unknownProperty _ _ => "UnknownProperty"
  | .driver _ => "Driver"
  | .unconditionalMutation _ _ => "UnconditionalMutation"
  | .condition _ => "Condition"
  | .query _ => "Query"
  | .relation _ => "Relation"
  | .hydration _ => "Hydration"
  | .configuration _ => "Configuration"

def Error.message : Error → String
  | .missingTable entity table => s!"Missing table '{table}' for entity '{entity}'"
  | .missingSchema entity detail => s!"Missing schema for entity '{entity}': {detail}"
  | .missingDriver identifier => s!"No driver registered for '{identifier}'"
  | .missingConnection detail => s!"Connection error: {detail}"
  | .unknownProperty entity property => s!"Unknown property '{property}' on entity '{entity}'"
  | .driver detail => s!"Driver error: {detail}"
  | .unconditionalMutation operation table =>
    s!"Refusing unconditional {operation} on table '{table}'"
  | .condition detail => s!"Condition error: {detail}"
  | .query detail => s!"Query error: {detail}"
  | .relation detail => s!"Relation error: {detail}"
  | .hydration detail => s!"Hydration error: {detail}"
  | .configuration detail => s!"Configuration error: {detail}"

end EntityMapper
