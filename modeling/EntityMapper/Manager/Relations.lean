import EntityMapper.Manager.Basic
import EntityMapper.Relation.Plan

/-!
# Loading relations

A relation of an entity is loaded when it is first asked for. Its slot keeps what came of that,
targets or error, and answers from then on without the driver. A relation that is not declared, or
leads to another type, is turned down before anything is loaded, and leaves the slot as it was.

Loading begins with the owner written as a document. For the shapes that records have this cannot
fail, so `load` has no step for it.
-/

namespace EntityMapper.Manager

variable {δ : Type} {α : Type} [Driver δ]

/-- The declared relation of this name, if it leads to the given type. -/
def relationTo (owner target : EntityType) (name : String) : Action (Manager δ) Relation := do
  let r ← onRelations (RelationRegistry.relation owner name)
  if r.target.typeName = target.typeName then return r
  else
    throw (.relation
      s!"Relation '{name}' on '{owner.name}' targets {r.target.typeName}, not {target.typeName}")

/-- What entities are to a relation: all of them, or only the first. -/
def relatedBy (kind : RelationKind) (entities : List Entity) : Related Record :=
  let records := entities.map Entity.record
  if kind.isCollection then .many records else .one records.head?

def load (owner target : EntityType) (r : Relation) (record : Record) :
    Action (Manager δ) (Related Record) := do
  let ownerSchema ← schema owner
  let targetSchema ← schemaFor r.target.entity r.target.table?
  let naming ← Action.ask Manager.naming
  match ← Action.ofExcept (r.plan naming ownerSchema targetSchema record.toJson) with
  | none => return relatedBy r.kind []
  | some query => do
    let result ← run (← Action.ofExcept (Statement.ofSelect query))
    return relatedBy r.kind (← Action.ofExcept (target.hydrate result.rows))

def stored (slots : Slots Record) (relation : String) (target : EntityType) :
    Except Error (Related Record) :=
  (slots.get? relation target.typeName).getD
    (.error (.relation s!"Relation '{relation}' is not loaded"))

def besideEntity (action : Action (Manager δ) α) : Action (Manager δ × Entity) α :=
  action.on Prod.fst fun (_, entity) m => (m, entity)

def changeSlots (f : Slots Record → Slots Record) : Action (Manager δ × Entity) Unit :=
  Action.change fun (m, entity) => (m, { entity with slots := f entity.slots })

/-- Loads a relation into its slot; if that fails, the slot keeps the error. -/
def loadInto (slot : String) (target : EntityType) (loading : Action (Manager δ) (Related Record)) :
    Action (Manager δ × Entity) Unit := do
  changeSlots fun slots => slots.markResolving slot
  tryCatch
    (do
      let related ← besideEntity loading
      changeSlots fun slots => slots.preload slot target.typeName related)
    fun e => do
      changeSlots fun slots => slots.markFailed slot e
      throw e

/-- What a relation of an entity leads to, loaded at the first time. -/
def resolve (owner target : EntityType) (relation : String) :
    Action (Manager δ × Entity) (Related Record) := do
  let entity ← Action.ask Prod.snd
  match entity.slots.state relation with
  | .resolved => Action.ofExcept (stored entity.slots relation target)
  | .failed => Action.ofExcept (stored entity.slots relation target)
  -- a slot that is still being loaded was left behind by a run that was cut off: load anew
  | _ => do
    let r ← besideEntity (relationTo owner target relation)
    loadInto relation target (load owner target r entity.record)
    let entity ← Action.ask Prod.snd
    Action.ofExcept (stored entity.slots relation target)

end EntityMapper.Manager
