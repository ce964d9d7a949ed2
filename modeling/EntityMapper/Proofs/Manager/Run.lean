import EntityMapper.Manager.Reads
import EntityMapper.Manager.Relations
import EntityMapper.Manager.Writes
import EntityMapper.Proofs.Manager.Calls

/-!
# Runs of operations

All that may be asked of a manager, one operation after the other. An operation that fails does not
end a run: the next one goes on from the state that was left. The journal of a run has the calls of
each operation beside it.
-/

namespace EntityMapper

/-- An operation with its arguments. -/
inductive Operation where
  | connect
  | disconnect
  | begin
  | commit
  | rollback
  | create (type : EntityType) (fields : Fields)
  | insert (type : EntityType) (entity : Entity)
  | find (type : EntityType) (query : Query)
  | findOne (type : EntityType) (query : Query)
  | findBy (type : EntityType) (criteria : Criteria)
  | findOneBy (type : EntityType) (criteria : Criteria)
  | findBySql (type : EntityType) (sql : String) (values : List Value)
  | count (type : EntityType) (criteria : Criteria)
  | execute (sql : String) (values : List Value)
  | update (type : EntityType) (criteria : Criteria) (fields : Fields)
  | updateAll (type : EntityType) (fields : Fields)
  | delete (type : EntityType) (criteria : Criteria)
  | deleteAll (type : EntityType)
  /-- On an entity in any state of its slots. -/
  | resolve (owner target : EntityType) (relation : String) (entity : Entity)
  /-- Another manager of a shared pool has changed what they know. -/
  | learn (schemas : SchemaCache) (relations : RelationRegistry)

namespace Operation

variable {δ : Type} {α : Type}

/-- An action of the manager and an entity beside it, of which only the manager is followed. -/
def withEntity (entity : Entity) (action : Action (Manager δ × Entity) α) : Action (Manager δ) α :=
  action.on (fun m => (m, entity)) fun _ s => s.1

/-- The entity beside a manager does not show in the calls. -/
theorem calls_withEntity {σ : Type} [Traced σ] {P : Call → Prop} {entity : Entity}
    {action : Action (Manager σ × Entity) α} (h : action.Calls P) :
    (withEntity entity action).Calls P :=
  .on (fun _ => rfl) (fun _ _ => rfl) h

variable [Driver δ]

/-- What an operation does, with its result left aside. -/
def action : Operation → Action (Manager δ) Unit
  | .connect => Manager.connect
  | .disconnect => Manager.disconnect
  | .begin => Manager.begin
  | .commit => Manager.commit
  | .rollback => Manager.rollback
  | .create type fields => do let _ ← Manager.create type fields
  | .insert type entity => do let _ ← Manager.insert type entity
  | .find type query => do let _ ← Manager.find type query
  | .findOne type query => do let _ ← Manager.findOne type query
  | .findBy type criteria => do let _ ← Manager.findBy type criteria
  | .findOneBy type criteria => do let _ ← Manager.findOneBy type criteria
  | .findBySql type sql values => do let _ ← Manager.findBySql type sql values
  | .count type criteria => do let _ ← Manager.count type criteria
  | .execute sql values => do let _ ← Manager.execute sql values
  | .update type criteria fields => do let _ ← Manager.update type criteria fields
  | .updateAll type fields => do let _ ← Manager.updateAll type fields
  | .delete type criteria => do let _ ← Manager.delete type criteria
  | .deleteAll type => do let _ ← Manager.deleteAll type
  | .resolve owner target relation entity => do
    let _ ← withEntity entity (Manager.resolve owner target relation)
  | .learn schemas relations => Action.change fun m => { m with schemas, relations }

/-- The manager after an operation, whether it succeeded or failed. -/
def after (op : Operation) (m : Manager δ) : Manager δ := (op.action.perform m).2

end Operation

namespace Manager

variable {δ : Type} [Driver δ]

/-- The manager after a run of operations. -/
def afterAll (ops : List Operation) (m : Manager δ) : Manager δ :=
  ops.foldl (fun m op => op.after m) m

/-- The operations of a run, each with the calls that were made for it. -/
def journal : List Operation → Manager (Watched δ) → List (Operation × List Call)
  | [], _ => []
  | op :: rest, m =>
    (op, (op.after m).driver.calls.drop m.driver.calls.length) :: journal rest (op.after m)

/-- If the calls of each operation are such as `Q` says, whatever state it begins in, then so are
those in every journal; and the journal has all calls of the run. -/
theorem journal_of_ensures {Q : Operation → List Call → Prop}
    (h : ∀ op (m : Manager (Watched δ)), (Operation.action op).Ensures m fun made _ _ => Q op made)
    (ops : List Operation) : ∀ m : Manager (Watched δ),
      (afterAll ops m).driver.calls = m.driver.calls ++ (journal ops m).flatMap Prod.snd
      ∧ ∀ entry ∈ journal ops m, Q entry.1 entry.2 := by
  induction ops with
  | nil => intro m; simp [afterAll, journal]
  | cons op rest ih =>
    intro m
    obtain ⟨made, hcalls, hQ⟩ := h op m
    have hcalls : (op.after m).driver.calls = m.driver.calls ++ made := hcalls
    -- the calls of the first operation are those that came to the list
    have hmade : (op.after m).driver.calls.drop m.driver.calls.length = made := by
      rw [hcalls, List.drop_left]
    obtain ⟨hafter, hentries⟩ := ih (op.after m)
    refine ⟨?_, ?_⟩
    · rw [journal, List.flatMap_cons, hmade, ← List.append_assoc, ← hcalls]
      exact hafter
    · rw [journal, hmade]
      exact List.forall_mem_cons.mpr ⟨hQ, hentries⟩

end Manager

end EntityMapper
