import EntityMapper.Action
import EntityMapper.Entity.Basic
import EntityMapper.Relation.Declarations

/-!
# The registry of relations

The relations of an entity type are checked when they are first used, and kept from then on. Types
are told apart by their qualified names. Declarations that do not pass are checked again the next
time.
-/

namespace EntityMapper

/-- The declarations that have been checked, by the qualified name of the type. -/
structure RelationRegistry where
  declared : Dict Declarations := .empty

namespace RelationRegistry

instance : Inhabited RelationRegistry := ⟨{}⟩

/-- Whether the declarations of a type have been checked. -/
def isLoaded (r : RelationRegistry) (type : EntityType) : Bool := r.declared.contains type.typeName

def size (r : RelationRegistry) : Nat := r.declared.size

def isEmpty (r : RelationRegistry) : Bool := r.declared.isEmpty

def declarations (type : EntityType) : Action RelationRegistry Declarations :=
  Action.ofRun fun r =>
    match r.declared.get? type.typeName with
    | some d => (.ok d, r)
    | none =>
      match Declarations.declare type.name type.relations with
      | .ok d => (.ok d, ⟨r.declared.insert type.typeName d⟩)
      | .error e => (.error e, r)

def relation (type : EntityType) (name : String) : Action RelationRegistry Relation := do
  match (← declarations type).get? name with
  | some r => return r
  | none => throw (.unknownProperty type.name name)

end RelationRegistry

end EntityMapper
