import EntityMapper.Naming
import EntityMapper.Query
import EntityMapper.Relation.Basic
import EntityMapper.Schema.Basic

/-!
# Plans

What a relation means for one owner: the query that reads its targets, and the rows that go with the
owner when it is deleted. Both hang on a single value, the key of the owner or, for many-to-one, the
owner's reference to the target. If that value is null, nothing is related; if the owner lacks its
column, there is no telling.
-/

namespace EntityMapper.Relation

/-! ## Names that the declaration leaves open -/

/-- The column that refers to the owner, or for many-to-one to the target. -/
def foreignKey (r : Relation) (naming : Naming) (owner target : Schema) : String :=
  r.foreignKey?.getD <|
    if r.kind.keyOnOwner then naming.foreignKey target.entity target.key
    else naming.foreignKey owner.entity owner.key

def joinTable (r : Relation) (naming : Naming) (owner target : Schema) : String :=
  r.joinTable?.getD (naming.joinTable owner.entity target.entity)

def associationKey (r : Relation) (naming : Naming) (target : Schema) : String :=
  r.associationKey?.getD (naming.foreignKey target.entity target.key)

/-- The names by which a relation is carried out. -/
structure Keys where
  foreignKey : String
  joinTable? : Option String
  associationKey? : Option String
deriving DecidableEq, Repr

/-- The names by which this relation is carried out. -/
def keys (r : Relation) (naming : Naming) (owner target : Schema) : Keys where
  foreignKey := r.foreignKey naming owner target
  joinTable? := if r.kind.needsJoinTable then some (r.joinTable naming owner target) else none
  associationKey? := if r.kind.needsJoinTable then some (r.associationKey naming target) else none

/-! ## The value that relates -/

/-- The value of a column of the owner, which is given as a document. -/
def ownerValue (owner : Schema) (instanceOf : Json) (column : String) : Except Error Value :=
  match instanceOf.get? column with
  | some json => .ok (Value.ofJson json)
  | none =>
    .error (.missingSchema owner.entity s!"instance has no value for key column '{column}'")

def relatingColumn (r : Relation) (naming : Naming) (owner target : Schema) : String :=
  if r.kind.keyOnOwner then r.foreignKey naming owner target else owner.key

/-! ## Reading the targets -/

def targets (r : Relation) (naming : Naming) (owner target : Schema) (value : Value) : Query :=
  let related (column : String) := (Condition.equals column value).andAlso r.conditions
  let foreignKey := r.foreignKey naming owner target
  let query := Query.ofTable target.table
  match r.kind with
  | .oneToOne => (query.withConditions (related foreignKey)).withLimit 1
  | .oneToMany => query.withConditions (related foreignKey)
  | .manyToOne => (query.withConditions (related target.key)).withLimit 1
  | .manyToMany =>
    let joinTable := r.joinTable naming owner target
    ((query.select [s!"{target.table}.*"]).joinOn .inner joinTable
        s!"{joinTable}.{r.associationKey naming target}"
          s!"{target.table}.{target.key}").withConditions
      (related s!"{joinTable}.{foreignKey}")

/-- The query that reads the targets of an owner, or none if nothing can be related to it. -/
def plan (r : Relation) (naming : Naming) (owner target : Schema) (instanceOf : Json) :
    Except Error (Option Query) := do
  let value ← ownerValue owner instanceOf (r.relatingColumn naming owner target)
  return if value.isNull then none else some (r.targets naming owner target value)

/-! ## Deleting with the owner -/

/-- Rows to be deleted. -/
structure Removal where
  table : String
  conditions : Condition

/-- The rows that go with an owner of the given key: the targets, or the links to them. -/
def removalOf (r : Relation) (naming : Naming) (owner target : Schema) (key : Value) : Removal :=
  let ofOwner := Condition.equals (r.foreignKey naming owner target) key
  if r.kind.needsJoinTable then ⟨r.joinTable naming owner target, ofOwner⟩
  else ⟨target.table, ofOwner.andAlso r.conditions⟩

/-- Whether deleting an owner deletes other rows as well. What owners refer to is never deleted with
them. -/
def removesRows (r : Relation) : Bool := r.isDependent && r.kind != .manyToOne

/-- The rows that go with an owner, if there are any. -/
def removal (r : Relation) (naming : Naming) (owner target : Schema) (instanceOf : Json) :
    Except Error (Option Removal) :=
  if r.removesRows then do
    let key ← ownerValue owner instanceOf owner.key
    return if key.isNull then none else some (r.removalOf naming owner target key)
  else .ok none

end EntityMapper.Relation
