import EntityMapper.Relation.Basic

/-!
# Declarations

The relations of an entity type, in the order in which they are declared. They are checked one after
the other: each has to be sound, and its name must not have been used before.
-/

namespace EntityMapper

/-- The relations of an entity type. -/
structure Declarations where
  /-- The name of the entity type. -/
  entity : String
  relations : List Relation

namespace Declarations

/-- Checks relations one after the other, given the names that were used before. -/
def check (entity : String) (used : List String) : List Relation → Except Error Unit
  | [] => .ok ()
  | r :: rest => do
    r.validate entity
    if r.name ∈ used then
      throw (.relation s!"Relation '{r.name}' is declared twice on '{entity}'")
    check entity (r.name :: used) rest

def declare (entity : String) (relations : List Relation) : Except Error Declarations := do
  check entity [] relations
  return ⟨entity, relations⟩

def get? (d : Declarations) (name : String) : Option Relation := d.relations.find? (·.name == name)

def names (d : Declarations) : List String := d.relations.map Relation.name

end Declarations

end EntityMapper
