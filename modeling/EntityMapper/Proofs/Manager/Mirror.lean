import EntityMapper.Proofs.Driver.Mirror
import EntityMapper.Proofs.Manager.Run

/-!
# Managers that mirror each other

A manager knows no more of its driver than the actions that all drivers have. So if drivers of two
kinds mirror each other, their managers do the same: every operation has the same result, and leaves
managers that differ in nothing but their drivers. One thing that follows is that a property which
no action of a driver ends is not ended by any run of operations either (`invariant_afterAll`).

## Structure

* `mapDriver` — a manager with another driver in the place of its own.
* `mirrors_onDriver`, `mirrors_onRelations` — the actions on the parts of a manager.
* `Driver.Mirrored.find`, … — one lemma for each operation, in the order of its steps; `action`
  gathers them and `afterAll` goes over a run.
* `invariant_afterAll` — properties of drivers as the case in which the one kind of driver is the
  other with a property.
-/

namespace EntityMapper

open EntityMapper.Action (Mirrors)

variable {δ ε : Type} {α : Type} {f : δ → ε}

namespace Manager

/-- The manager with the image of its driver. -/
def mapDriver (f : δ → ε) (m : Manager δ) : Manager ε := { m with driver := f m.driver }

/-- The manager with the image of its driver, beside the same entity. -/
def mapBeside (f : δ → ε) (s : Manager δ × Entity) : Manager ε × Entity := (s.1.mapDriver f, s.2)

/-- What is done on the drivers is done on the managers. -/
theorem mirrors_onDriver {a : Action δ α} {b : Action ε α} (h : Mirrors f a b) :
    Mirrors (mapDriver f) (onDriver a) (onDriver b) :=
  .on (fun _ => rfl) (fun _ _ => rfl) h

theorem mirrors_onRelations (a : Action RelationRegistry α) :
    Mirrors (mapDriver f) (onRelations a) (onRelations a) :=
  fun _ => rfl

theorem mirrors_besideEntity {a : Action (Manager δ) α} {b : Action (Manager ε) α}
    (h : Mirrors (mapDriver f) a b) : Mirrors (mapBeside f) (besideEntity a) (besideEntity b) :=
  .on (fun _ => rfl) (fun _ _ => rfl) h

theorem mirrors_changeSlots (change : Slots Record → Slots Record) :
    Mirrors (mapBeside f) (changeSlots change) (changeSlots change) :=
  .change fun _ => rfl

/-- Loading into a slot: what is stored, and what is put back after a failure, are both told by the
loading. -/
theorem mirrors_loadInto (slot : String) (target : EntityType)
    {loading : Action (Manager δ) (Related Record)} {loading' : Action (Manager ε) (Related Record)}
    (h : Mirrors (mapDriver f) loading loading') :
    Mirrors (mapBeside f) (loadInto slot target loading) (loadInto slot target loading') := by
  refine .bind (mirrors_changeSlots _) fun _ => ?_
  refine .tryCatch ?_ fun e => ?_
  · refine .bind (mirrors_besideEntity h) fun related => ?_
    exact mirrors_changeSlots _
  · refine .bind (mirrors_changeSlots _) fun _ => ?_
    exact .throw e

/-- An action beside an entity is an action of the manager alone. -/
theorem mirrors_withEntity (entity : Entity) {a : Action (Manager δ × Entity) α}
    {b : Action (Manager ε × Entity) α} (h : Mirrors (mapBeside f) a b) :
    Mirrors (mapDriver f) (Operation.withEntity entity a) (Operation.withEntity entity b) :=
  .on (fun _ => rfl) (fun _ _ => rfl) h

/-- The result of an action may be dropped on both sides. -/
theorem mirrors_discard {σ τ : Type} {g : σ → τ} {a : Action σ α} {b : Action τ α}
    (h : Mirrors g a b) :
    Mirrors g (do let _ ← a) (do let _ ← b) :=
  .bind h fun _ => .pure ()

theorem mirrors_relationTo [Driver δ] [Driver ε] (owner target : EntityType) (name : String) :
    Mirrors (mapDriver f) (relationTo owner target name) (relationTo owner target name) := by
  refine .bind (mirrors_onRelations _) fun r => ?_
  split
  · exact .pure r
  · exact .throw _

end Manager

namespace Driver.Mirrored

open Manager
  (mapDriver mapBeside mirrors_onDriver mirrors_onRelations mirrors_besideEntity mirrors_relationTo
  mirrors_loadInto mirrors_withEntity mirrors_discard)

variable [Driver δ] [Driver ε]

/-- The connection is opened on both sides or on neither. -/
theorem ensureConnected (hf : Mirrored f) :
    Mirrors (mapDriver f) Manager.ensureConnected Manager.ensureConnected := by
  refine .bind (.ask fun m => hf.isConnected m.driver) fun connected => ?_
  cases connected with
  | true => exact .pure ()
  | false => exact mirrors_onDriver hf.connect

theorem run (hf : Mirrored f) (statement : Statement) :
    Mirrors (mapDriver f) (Manager.run statement) (Manager.run statement) := by
  refine .bind hf.ensureConnected fun _ => ?_
  exact mirrors_onDriver (hf.execute _)

/-- A schema is looked up with the same cache and the same naming. -/
theorem schemaFor (hf : Mirrored f) (entity : String) (table? : Option String) :
    Mirrors (mapDriver f) (Manager.schemaFor entity table?) (Manager.schemaFor entity table?) := by
  refine .bind hf.ensureConnected fun _ => ?_
  refine .bind (.ask fun _ => rfl) fun naming => ?_
  exact .on (fun _ => rfl) (fun _ _ => rfl) (SchemaRequest.mirrors_get hf ⟨entity, table?, naming⟩)

theorem schema (hf : Mirrored f) (type : EntityType) :
    Mirrors (mapDriver f) (Manager.schema type) (Manager.schema type) :=
  hf.schemaFor type.name type.table?

/-! ## Reads

Each operation is walked through once, step by step. The steps that ask the driver are `schema` and
`run`; all others are worked out alike. -/

/-- A read: the schema, one statement, and what is made of its rows. -/
theorem find (hf : Mirrored f) (type : EntityType) (query : Query) :
    Mirrors (mapDriver f) (Manager.find type query) (Manager.find type query) := by
  refine .bind (hf.schema type) fun schema => ?_
  refine .bind (hf.run _) fun result => ?_
  exact .ofExcept _

theorem findOne (hf : Mirrored f) (type : EntityType) (query : Query) :
    Mirrors (mapDriver f) (Manager.findOne type query) (Manager.findOne type query) := by
  refine .bind (hf.find type _) fun entities => ?_
  exact .pure _

/-- A read by criteria, which are read before anything else. -/
theorem findBy (hf : Mirrored f) (type : EntityType) (criteria : Criteria) :
    Mirrors (mapDriver f) (Manager.findBy type criteria) (Manager.findBy type criteria) := by
  refine .bind (.ofExcept _) fun conditions => ?_
  exact hf.find type _

/-- The first of the entities that are read so. -/
theorem findOneBy (hf : Mirrored f) (type : EntityType) (criteria : Criteria) :
    Mirrors (mapDriver f) (Manager.findOneBy type criteria) (Manager.findOneBy type criteria) := by
  refine .bind (.ofExcept _) fun conditions => ?_
  exact hf.findOne type _

theorem findBySql (hf : Mirrored f) (type : EntityType) (sql : String) (values : List Value) :
    Mirrors (mapDriver f) (Manager.findBySql type sql values)
      (Manager.findBySql type sql values) := by
  refine .bind (hf.schema type) fun schema => ?_
  refine .bind (hf.run _) fun result => ?_
  exact .ofExcept _

theorem count (hf : Mirrored f) (type : EntityType) (criteria : Criteria) :
    Mirrors (mapDriver f) (Manager.count type criteria) (Manager.count type criteria) := by
  refine .bind (.ofExcept _) fun conditions => ?_
  refine .bind (hf.schema type) fun schema => ?_
  refine .bind (hf.run _) fun result => ?_
  exact .ofExcept _

/-! ## Writes

The same for operations that change rows. -/

/-- An insert, behind which the driver may be asked for the key. -/
theorem create (hf : Mirrored f) (type : EntityType) (fields : Fields) :
    Mirrors (mapDriver f) (Manager.create type fields) (Manager.create type fields) := by
  refine .bind (hf.schema type) fun schema => ?_
  refine .bind (.ofExcept _) fun _ => ?_
  refine .bind (mirrors_onDriver (hf.execute _)) fun result => ?_
  cases (Manager.ownKey? schema fields).or result.lastInsertId with
  | some key => exact .pure _
  | none => exact mirrors_onDriver hf.lastInsertId

theorem insert (hf : Mirrored f) (type : EntityType) (entity : Entity) :
    Mirrors (mapDriver f) (Manager.insert type entity) (Manager.insert type entity) := by
  refine .bind (hf.schema type) fun schema => ?_
  refine .bind (.ofExcept _) fun fields => ?_
  exact hf.create type _

theorem updateRows (hf : Mirrored f) (type : EntityType) (conditions : Condition) (fields : Fields)
    (everyRow : Bool) :
    Mirrors (mapDriver f) (Manager.updateRows type conditions fields everyRow)
      (Manager.updateRows type conditions fields everyRow) := by
  refine .bind (.ofExcept _) fun _ => ?_
  refine .bind (hf.schema type) fun schema => ?_
  refine .bind (.ofExcept _) fun _ => ?_
  exact mirrors_onDriver (hf.update _ conditions fields everyRow)

/-- The deletion of what goes with one owner, if it has a key. -/
theorem deleteRelated (hf : Mirrored f) (r : Relation) (owner target : Schema) (row : Row) :
    Mirrors (mapDriver f) (Manager.deleteRelated r owner target row)
      (Manager.deleteRelated r owner target row) := by
  refine .bind (.ask fun _ => rfl) fun naming => ?_
  refine .bind (.ofExcept _) fun removal? => ?_
  cases removal? with
  | none => exact .pure ()
  | some removal =>
    refine .bind (mirrors_onDriver (hf.delete _ _ _)) fun _ => ?_
    exact .pure ()

/-- The owners are read, and then there are two loops: over the relations, and over the owners. -/
theorem deleteAllDependents (hf : Mirrored f) (type : EntityType) (schema : Schema)
    (conditions : Condition) :
    Mirrors (mapDriver f) (Manager.deleteAllDependents type schema conditions)
      (Manager.deleteAllDependents type schema conditions) := by
  refine .bind (mirrors_onRelations _) fun declared => ?_
  cases declared.relations.filter Relation.removesRows with
  | nil => exact .pure ()
  | cons r rest =>
    refine .bind (hf.run _) fun owners => ?_
    refine .forM fun r => ?_
    refine .bind (hf.schemaFor _ _) fun target => ?_
    exact .forM fun row => hf.deleteRelated r schema target row

theorem deleteRows (hf : Mirrored f) (type : EntityType) (conditions : Condition)
    (everyRow : Bool) :
    Mirrors (mapDriver f) (Manager.deleteRows type conditions everyRow)
      (Manager.deleteRows type conditions everyRow) := by
  refine .bind (.ofExcept _) fun _ => ?_
  refine .bind (hf.schema type) fun schema => ?_
  refine .bind (hf.deleteAllDependents type schema conditions) fun _ => ?_
  exact mirrors_onDriver (hf.delete _ conditions everyRow)

/-! ## Relations

The same for operations on an entity beside the manager. -/

/-- What a relation leads to is read as entities are. -/
theorem load (hf : Mirrored f) (owner target : EntityType) (r : Relation) (record : Record) :
    Mirrors (mapDriver f) (Manager.load owner target r record)
      (Manager.load owner target r record) := by
  refine .bind (hf.schema owner) fun ownerSchema => ?_
  refine .bind (hf.schemaFor _ _) fun targetSchema => ?_
  refine .bind (.ask fun _ => rfl) fun naming => ?_
  refine .bind (.ofExcept _) fun query? => ?_
  cases query? with
  | none => exact .pure _
  | some query =>
    refine .bind (.ofExcept _) fun statement => ?_
    refine .bind (hf.run _) fun result => ?_
    refine .bind (.ofExcept _) fun entities => ?_
    exact .pure _

/-- A relation is loaded only if it is neither there nor on its way. -/
theorem resolve (hf : Mirrored f) (owner target : EntityType) (relation : String) :
    Mirrors (mapBeside f) (Manager.resolve owner target relation)
      (Manager.resolve owner target relation) := by
  refine .bind (.ask fun _ => rfl) fun entity => ?_
  split
  · exact .ofExcept _
  · exact .ofExcept _
  · refine .bind (mirrors_besideEntity (mirrors_relationTo owner target relation)) fun r => ?_
    refine .bind (mirrors_loadInto relation target (hf.load owner target r _)) fun _ => ?_
    refine .bind (.ask fun _ => rfl) fun entity => ?_
    exact .ofExcept _

/-! ## Operations and runs

All operations at once, and so all runs. -/

/-- Every operation, by the lemma for what it does. -/
theorem action (hf : Mirrored f) (op : Operation) : Mirrors (mapDriver f) op.action op.action := by
  cases op with
  | connect => exact mirrors_onDriver hf.connect
  | disconnect => exact mirrors_onDriver hf.disconnect
  -- transactions open the connection first
  | begin => exact .bind hf.ensureConnected fun _ => mirrors_onDriver (hf.mark _)
  | commit => exact mirrors_onDriver (hf.mark _)
  | rollback => exact mirrors_onDriver (hf.mark _)
  | create type fields => exact mirrors_discard (hf.create type fields)
  | insert type entity => exact mirrors_discard (hf.insert type entity)
  | find type query => exact mirrors_discard (hf.find type query)
  | findOne type query => exact mirrors_discard (hf.findOne type query)
  | findBy type criteria => exact mirrors_discard (hf.findBy type criteria)
  | findOneBy type criteria => exact mirrors_discard (hf.findOneBy type criteria)
  | findBySql type sql values => exact mirrors_discard (hf.findBySql type sql values)
  | count type criteria => exact mirrors_discard (hf.count type criteria)
  | execute sql values => exact mirrors_discard (hf.run (.raw sql values))
  | update type criteria fields =>
    exact mirrors_discard (.bind (.ofExcept _) fun c => hf.updateRows type c fields false)
  | updateAll type fields => exact mirrors_discard (hf.updateRows type .empty fields true)
  | delete type criteria =>
    exact mirrors_discard (.bind (.ofExcept _) fun c => hf.deleteRows type c false)
  | deleteAll type => exact mirrors_discard (hf.deleteRows type .empty true)
  | resolve owner target relation entity =>
    exact mirrors_discard (mirrors_withEntity entity (hf.resolve owner target relation))
  | learn schemas relations => exact .change fun _ => rfl

/-- A run, operation by operation. Induction on the operations. -/
theorem afterAll (hf : Mirrored f) (ops : List Operation) (m : Manager δ) :
    Manager.afterAll ops (m.mapDriver f) = (Manager.afterAll ops m).mapDriver f := by
  induction ops generalizing m with
  | nil => rfl
  | cons op rest ih =>
    have hafter : op.after (m.mapDriver f) = (op.after m).mapDriver f := by
      rw [Operation.after, Operation.after, hf.action op m]
    show Manager.afterAll rest (op.after (m.mapDriver f)) = _
    rw [hafter, ih]
    rfl

end Driver.Mirrored

namespace Manager

variable {P : δ → Prop}

/-- What is done alike by the drivers with a property does not end the property. -/
theorem invariant_of_mirrors {held : Action (Manager (Subtype P)) α} {action : Action (Manager δ) α}
    (h : Mirrors (mapDriver Subtype.val) held action) {m : Manager δ} (hm : P m.driver) :
    P (action.perform m).2.driver := by
  -- the same action, begun with the driver as a member of the subtype
  have hperform := h ⟨⟨m.driver, hm⟩, m.schemas, m.relations, m.naming⟩
  have hperform : action.perform m = (_, mapDriver Subtype.val _) := hperform
  rw [hperform]
  exact Subtype.property _

variable [Driver δ]

theorem invariant_schemaFor (h : Driver.Invariant P) (entity : String) (table? : Option String)
    {m : Manager δ}
    (hm : P m.driver) : P ((schemaFor entity table?).perform m).2.driver :=
  let _ := h.driver
  invariant_of_mirrors (h.mirrored.schemaFor entity table?) hm

/-- No run ends a property that no action of a driver ends. -/
theorem invariant_afterAll (h : Driver.Invariant P) (ops : List Operation) {m : Manager δ}
    (hm : P m.driver) :
    P (afterAll ops m).driver := by
  let _ := h.driver
  induction ops generalizing m with
  | nil => exact hm
  -- one operation does not end the property, and by induction the rest does not
  | cons op rest ih => exact ih (invariant_of_mirrors (h.mirrored.action op) hm)

end Manager

end EntityMapper
