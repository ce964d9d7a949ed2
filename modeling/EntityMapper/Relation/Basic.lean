import EntityMapper.Condition.Basic

/-!
# Relations

A relation leads from the instances of one entity type to those of another, by a column that refers
to a key. Which table holds that column depends on the kind of the relation. Names of columns and
tables that the declaration leaves open are derived from those of the entity types when the relation
is used.
-/

namespace EntityMapper

/-- How many instances stand on either side of a relation. -/
inductive RelationKind where
  /-- At most one target, which refers to its owner. -/
  | oneToOne
  /-- Any number of targets, which refer to their owner. -/
  | oneToMany
  /-- At most one target, to which its owners refer. -/
  | manyToOne
  /-- Any number of targets, linked with their owners by the rows of a join table. -/
  | manyToMany
deriving DecidableEq, Repr

namespace RelationKind

def name : RelationKind → String
  | .oneToOne => "OneToOne"
  | .oneToMany => "OneToMany"
  | .manyToOne => "ManyToOne"
  | .manyToMany => "ManyToMany"

/-- Whether there may be more than one target. -/
def isCollection : RelationKind → Bool
  | .oneToMany => true
  | .manyToMany => true
  | _ => false

/-- Whether the referring column is in the table of the owner. -/
def keyOnOwner (kind : RelationKind) : Bool := kind == .manyToOne

/-- Whether the relation goes through a join table. -/
def needsJoinTable (kind : RelationKind) : Bool := kind == .manyToMany

end RelationKind

/-- The entity type that a relation leads to. -/
structure Target where
  /-- The name of the entity type. -/
  entity : String
  /-- The table, where the type names one itself. -/
  table? : Option String := none
  /-- The qualified name of the type, which tells types of one name apart. -/
  typeName : String
deriving DecidableEq, Repr

/-- A declared relation. -/
structure Relation where
  name : String
  kind : RelationKind
  target : Target
  /-- The column that refers to the owner, or for many-to-one to the target. -/
  foreignKey? : Option String := none
  joinTable? : Option String := none
  associationKey? : Option String := none
  /-- What the targets have to fulfil besides. -/
  conditions : Condition := .empty
  /-- Whether the targets, or their links, are deleted with the owner. -/
  isDependent : Bool := false

namespace Relation

/-! ## Sound declarations -/

/-- What is wrong with a declaration. -/
inductive Flaw where
  | blankName
  | blankTarget
  | blankForeignKey
  | blankJoinTable
  | blankAssociationKey
  /-- The kind has no use for a join table. -/
  | needlessJoinTable (kind : RelationKind)
deriving DecidableEq, Repr

def Flaw.detail : Flaw → String
  | .blankName => "relation name is empty"
  | .blankTarget => "target entity name is empty"
  | .blankForeignKey => "foreign key override is empty"
  | .blankJoinTable => "join table override is empty"
  | .blankAssociationKey => "association foreign key override is empty"
  | .needlessJoinTable kind => s!"{kind.name} relations do not use a join table"

def givenBlank (name? : Option String) : Bool := name?.any Text.isBlankText

def flaw? (r : Relation) : Option Flaw :=
  if Text.isBlankText r.name then some .blankName
  else if Text.isBlankText r.target.entity then some .blankTarget
  else if givenBlank r.foreignKey? then some .blankForeignKey
  else if givenBlank r.joinTable? then some .blankJoinTable
  else if givenBlank r.associationKey? then some .blankAssociationKey
  else if !r.kind.needsJoinTable && (r.joinTable?.isSome || r.associationKey?.isSome) then
    some (.needlessJoinTable r.kind)
  else none

def validate (owner : String) (r : Relation) : Except Error Unit :=
  match r.flaw? with
  | some flaw =>
    .error (.relation s!"Invalid relation '{r.name}' on '{owner}': {flaw.detail}")
  | none => .ok ()

end Relation

end EntityMapper
