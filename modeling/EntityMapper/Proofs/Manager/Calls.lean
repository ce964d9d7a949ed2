import EntityMapper.Manager.Relations
import EntityMapper.Proofs.Schema.Memo

/-!
# Calls of managers

A manager asks its driver for a connection and a description of tables on the way to a schema, and
otherwise for what an operation is about. The actions that all operations are made of are taken
apart here, so that an operation is followed through its steps alone.

## Structure

* `calls_onDriver`, `calls_onSchemas`, `calls_onRelations` — actions on a part of the manager make
  the calls of that part.
* `calls_ensureConnected`, `calls_schemaFor` — all calls on the way to a statement are preparations
  (`Call.Prepares`).
* `ensures_run` — behind the preparations there is one statement, or they failed.
-/

namespace EntityMapper

open Traced (calls)

instance {σ : Type} [Traced σ] : Traced (Manager σ) := ⟨fun m => calls m.driver⟩

instance {σ : Type} [Traced σ] : Traced (Manager σ × Entity) := ⟨fun s => calls s.1⟩

/-! ## Parts of a manager

A manager consists of its driver and of what it knows. Actions on a part are lifted to the whole,
and only those on the driver make calls. -/

namespace Manager

section Parts

variable {σ α : Type} [Traced σ] {P : Call → Prop}

/-- What an action on the driver ensures, it ensures of the manager. -/
theorem ensures_onDriver {action : Action σ α} {m : Manager σ}
    {Q : List Call → Except Error α → Manager σ → Prop}
    (h : action.Ensures m.driver fun made result driver => Q made result { m with driver }) :
    (onDriver action).Ensures m Q :=
  .on rfl (fun _ => rfl) h

/-- Calls of the driver are calls of the manager. -/
theorem calls_onDriver {action : Action σ α} (h : action.Calls P) : (onDriver action).Calls P :=
  .on (fun _ => rfl) (fun _ _ => rfl) h

theorem calls_onRelations (action : Action RelationRegistry α) :
    (onRelations action : Action (Manager σ) α).Calls P :=
  .still fun _ => rfl

/-- What is asked for schemas is asked of the driver. -/
theorem calls_onSchemas {action : Action (SchemaCache × σ) α} (h : action.Calls P) :
    (onSchemas action).Calls P :=
  .on (fun _ => rfl) (fun _ _ => rfl) h

/-- An entity beside the manager has no calls of its own. -/
theorem calls_besideEntity {action : Action (Manager σ) α} (h : action.Calls P) :
    (besideEntity action).Calls P :=
  .on (fun _ => rfl) (fun _ _ => rfl) h

theorem calls_changeSlots (f : Slots Record → Slots Record) :
    (changeSlots f : Action (Manager σ × Entity) Unit).Calls P :=
  .still fun _ => rfl

/-- Loading into a slot makes the calls of the loading, whether it succeeds or fails. -/
theorem calls_loadInto (slot : String) (target : EntityType)
    {loading : Action (Manager σ) (Related Record)} (h : loading.Calls P) :
    (loadInto slot target loading).Calls P := by
  refine .bind (calls_changeSlots _) fun _ => ?_
  refine .tryCatch ?_ fun e => ?_
  · refine .bind (calls_besideEntity h) fun related => ?_
    exact calls_changeSlots _
  · refine .bind (calls_changeSlots _) fun _ => ?_
    exact .throw e

/-- Finding a declared relation makes no calls. -/
theorem calls_relationTo (owner target : EntityType) (name : String) :
    (relationTo owner target name : Action (Manager σ) Relation).Calls P := by
  refine .bind (calls_onRelations _) fun r => ?_
  split
  · exact .pure r
  · exact .throw _

end Parts

/-! ## Steps of operations

The two things that operations do through a manager: they look up a schema, and they execute a
statement. -/

variable {δ : Type} [Driver δ]

/-- The connection is opened, and nothing else. -/
theorem calls_ensureConnected_of {P : Call → Prop} (h : ∀ answer, P (.connect answer)) :
    (ensureConnected : Action (Manager (Watched δ)) Unit).Calls P := by
  refine .bind (.ask _) fun connected => ?_
  cases connected with
  | true => exact .pure ()
  | false => exact calls_onDriver (Watched.calls_watch h _)

/-- Opening the connection is part of the preparations. -/
theorem calls_ensureConnected :
    (ensureConnected : Action (Manager (Watched δ)) Unit).Calls Call.Prepares :=
  calls_ensureConnected_of fun _ => trivial

/-- Before a schema is there, the connection may be opened and tables be asked for. -/
theorem calls_schemaFor (entity : String) (table? : Option String) :
    (schemaFor entity table? : Action (Manager (Watched δ)) Schema).Calls Call.Prepares := by
  refine .bind calls_ensureConnected fun _ => ?_
  refine .bind (.ask _) fun naming => ?_
  -- what is asked of the driver for a schema is told by `ensures_get`
  refine calls_onSchemas fun s => ?_
  exact (SchemaRequest.ensures_get ⟨entity, table?, naming⟩ s).mono fun _ _ _ h => h.prepares

theorem calls_schema (type : EntityType) :
    (schema type : Action (Manager (Watched δ)) Schema).Calls Call.Prepares :=
  calls_schemaFor type.name type.table?

/-- Executing a statement makes that call, and those that open the connection. -/
theorem calls_run {P : Call → Prop} (hprepares : ∀ c, Call.Prepares c → P c) {statement : Statement}
    (h : ∀ answer, P (.execute statement answer)) :
    (run statement : Action (Manager (Watched δ)) ResultSet).Calls P :=
  .bind (calls_ensureConnected.mono hprepares) fun _ => calls_onDriver (Watched.calls_watch h _)

/-- What a manager does to execute a statement: it may have to open the connection, and if that
fails, the statement is not executed; otherwise the answer to the statement is the result. -/
theorem ensures_run (statement : Statement) (m : Manager (Watched δ)) :
    (run statement).Ensures m fun made result _ => ∃ preparing, (∀ c ∈ preparing, Call.Prepares c)
      ∧ ((made = preparing ∧ ∃ e, result = .error e)
          ∨ made = preparing ++ [.execute statement result]) := by
  refine (calls_ensureConnected m).bind (fun preparing _ left hpreparing => ?_)
    fun preparing e _ hpreparing => ⟨preparing, hpreparing, .inl ⟨rfl, e, rfl⟩⟩
  refine ensures_onDriver ((Watched.ensures_watch (.execute statement) _ left.driver).mono ?_)
  rintro made result driver ⟨rfl, -⟩
  exact ⟨preparing, hpreparing, .inr rfl⟩

end Manager

end EntityMapper
