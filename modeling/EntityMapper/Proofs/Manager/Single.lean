import EntityMapper.Proofs.Manager.Resolution
import EntityMapper.Proofs.Results

/-!
# Operations of one statement

All operations but the deletions are made alike: they ask for schemas, execute one statement at
most, and work out their result from the answer. `OneStatement` says this of the calls and the
result, and there is one lemma for each operation that says which statement it is (`asksOne_find`,
`asksOne_create`, …). What an operation executes and why it fails is read off from there
(`OneStatement.refused`, `AsksOne.calls`), so that no operation has to be gone through again for
another property of its calls.

## Structure

* `Error.IsRefusal` — the errors by which an operation is turned down, as against those of the
  driver and of its answers.
* `OneStatement` — calls and result of an operation: preparations, then at most one statement of a
  given kind, and a refusal only if there was none, unless the driver itself answered so.
* `AsksOne` — an action that is so from every state. It is composed with preparations in front
  (`before`), and with what is worked out behind (`bind`, `bindExcept`).
* `asksOne_find`, `asksOne_create`, … — one lemma for each operation, put together in
  `asksOne_action`.
-/

namespace EntityMapper

/-- The errors by which an operation is refused. -/
def Error.IsRefusal : Error → Prop
  | .condition _ => True
  | .unconditionalMutation _ _ => True
  | .missingTable _ _ => True
  | .missingSchema _ _ => True
  | .unknownProperty _ _ => True
  | .relation _ => True
  | _ => False

namespace Call

/-- A call that executes no statement. -/
def Silent (c : Call) : Prop := c.statement? = none

/-- The driver fails with this error at a statement, or when it is asked what a statement generated.
-/
def Fails (e : Error) : Call → Prop
  | .execute _ answer => answer = .error e
  | .lastInsertId answer => answer = .error e
  | _ => False

/-- The calls that may come after a statement: none, or behind an insert the question which
identifier was generated. -/
def Follow (s : Statement) (after : List Call) : Prop :=
  after = [] ∨ ∃ table fields answer, s = .insert table fields ∧ after = [.lastInsertId answer]

theorem Follow.silent {s : Statement} {after : List Call} (h : Follow s after) :
    ∀ c ∈ after, c.Silent := by
  rcases h with rfl | ⟨_, _, _, -, rfl⟩
  · simp
  · exact List.forall_mem_singleton.mpr rfl

end Call

/-! ## One statement at most

The property of calls and a result that all operations but the deletions have, and what follows from
it. -/

section OneStatement

variable {α β : Type} {S : Statement → Prop} {made first : List Call} {result : Except Error α}

/-- Calls that prepare at most one of the statements `S`, execute it, and may ask for what it
generated. If the result refuses something, then nothing was executed, or the driver answered in
these words. -/
def OneStatement (S : Statement → Prop) (made : List Call) (result : Except Error α) : Prop :=
  ∃ preparing, (∀ c ∈ preparing, c.Prepares)
    ∧ (made = preparing
      ∨ ∃ s answer after, S s ∧ made = preparing ++ .execute s answer :: after ∧ Call.Follow s after
        ∧ ∀ e, result = .error e → e.IsRefusal → ∃ c ∈ Call.execute s answer :: after, c.Fails e)

namespace OneStatement

theorem of_prepares (h : ∀ c ∈ made, c.Prepares) : OneStatement S made result := ⟨made, h, .inl rfl⟩

/-- A statement that is executed at once, with a result that refuses nothing by itself. -/
theorem of_execute {s : Statement} {answer : Except Error ResultSet} (hs : S s)
    (h : ∀ e, result = .error e → e.IsRefusal → answer = .error e) :
    OneStatement S [.execute s answer] result :=
  ⟨[], List.forall_mem_nil _, .inr ⟨s, answer, [], hs, rfl, .inl rfl,
    fun e he hrefusal => ⟨_, List.mem_cons_self, h e he hrefusal⟩⟩⟩

/-- More preparations in front make no difference. -/
theorem prepend (hfirst : ∀ c ∈ first, c.Prepares) (h : OneStatement S made result) :
    OneStatement S (first ++ made) result := by
  obtain ⟨preparing, hpreparing, hmade⟩ := h
  refine ⟨first ++ preparing, List.forall_mem_append.mpr ⟨hfirst, hpreparing⟩, ?_⟩
  rcases hmade with rfl | ⟨s, answer, after, hs, rfl, hafter, hrefuses⟩
  · exact .inl rfl
  · exact .inr ⟨s, answer, after, hs, (List.append_assoc _ _ _).symm, hafter, hrefuses⟩

/-- Another result, which refuses no more than this one. -/
theorem of_result {result' : Except Error β} (h : OneStatement S made result)
    (hresult : ∀ e, result' = .error e → e.IsRefusal → result = .error e) :
    OneStatement S made result' := by
  obtain ⟨preparing, hpreparing, rfl | ⟨s, answer, after, hs, rfl, hafter, hrefuses⟩⟩ := h
  · exact .of_prepares hpreparing
  · exact ⟨preparing, hpreparing, .inr ⟨s, answer, after, hs, rfl, hafter,
      fun e he hrefusal => hrefuses e (hresult e he hrefusal) hrefusal⟩⟩

theorem mono {T : Statement → Prop} (h : OneStatement S made result) (hST : ∀ s, S s → T s) :
    OneStatement T made result := by
  obtain ⟨preparing, hpreparing, hmade⟩ := h
  exact ⟨preparing, hpreparing, hmade.imp_right fun ⟨s, answer, after, hs, hrest⟩ =>
    ⟨s, answer, after, hST s hs, hrest⟩⟩

/-- Of such calls, each is one that prepares, executes one of the statements, or asks what an insert
generated. -/
theorem forall_mem {P : Call → Prop} (h : OneStatement S made result)
    (hprepares : ∀ c, Call.Prepares c → P c) (hexecute : ∀ s, S s → ∀ answer, P (.execute s answer))
    (hasks : ∀ answer, P (.lastInsertId answer)) :
    ∀ c ∈ made, P c := by
  obtain ⟨preparing, hpreparing, rfl | ⟨s, answer, after, hs, rfl, hafter, -⟩⟩ := h
  · exact fun c hc => hprepares c (hpreparing c hc)
  · refine List.forall_mem_append.mpr ⟨fun c hc => hprepares c (hpreparing c hc), ?_⟩
    refine List.forall_mem_cons.mpr ⟨hexecute s hs answer, ?_⟩
    rcases hafter with rfl | ⟨_, _, id, -, rfl⟩
    · simp
    · exact List.forall_mem_singleton.mpr (hasks id)

/-- **What is refused was not executed**, unless it is the driver that refuses. -/
theorem refused (h : OneStatement S made result) {e : Error} (he : result = .error e)
    (hrefusal : e.IsRefusal) :
    (∀ c ∈ made, c.Silent) ∨ ∃ c ∈ made, c.Fails e := by
  obtain ⟨preparing, hpreparing, rfl | ⟨s, answer, after, -, rfl, -, hrefuses⟩⟩ := h
  · exact .inl fun c hc => (hpreparing c hc).statement
  · -- the refusal came with the answer to a call
    obtain ⟨c, hc, hfails⟩ := hrefuses e he hrefusal
    exact .inr ⟨c, List.mem_append_right preparing hc, hfails⟩

end OneStatement

end OneStatement

/-! ## Actions of one statement

How the property is put together along the steps of an action. In front of the statement stand
actions that only prepare (`bind`), behind it those that make no calls and refuse nothing
(`Settles`, `before`). -/

namespace Action

variable {σ τ α β : Type} [Traced σ] [Traced τ] {S : Statement → Prop}

/-- An action that only works out a result: it makes no calls, and refuses nothing. -/
def Settles (action : Action σ α) : Prop :=
  ∀ s, action.Ensures s fun made result _ => made = [] ∧ ∀ e, result = .error e → ¬ e.IsRefusal

namespace Settles

theorem pure (a : α) : (Pure.pure a : Action σ α).Settles :=
  fun _ => .still rfl ⟨rfl, fun _ he => by cases he⟩

theorem ofExcept {result : Except Error α} (h : ∀ e, result = .error e → ¬ e.IsRefusal) :
    (Action.ofExcept result : Action σ α).Settles :=
  fun _ => .still rfl ⟨rfl, h⟩

end Settles

/-- An action that executes one of the statements `S` at most. -/
def AsksOne (S : Statement → Prop) (action : Action σ α) : Prop :=
  ∀ s, action.Ensures s fun made result _ => OneStatement S made result

namespace AsksOne

theorem of_prepares {action : Action σ α} (h : action.Calls Call.Prepares) : action.AsksOne S :=
  fun s => (h s).mono fun _ _ _ => .of_prepares

theorem mono {T : Statement → Prop} {action : Action σ α} (h : action.AsksOne S)
    (hST : ∀ s, S s → T s) :
    action.AsksOne T :=
  fun s => (h s).mono fun _ _ _ hmade => hmade.mono hST

/-- What comes before the statement asks for schemas at most. -/
theorem bind {action : Action σ α} {next : α → Action σ β} (h : action.Calls Call.Prepares)
    (hnext : ∀ a, (next a).AsksOne S) : (action >>= next).AsksOne S :=
  fun s => (h s).bind (fun _ a left hmade => (hnext a left).mono fun _ _ _ => .prepend hmade)
    fun _ _ _ hmade => .of_prepares hmade

/-- What is worked out before the statement may decide which statement it is. -/
theorem bindExcept {result : Except Error α} {next : α → Action σ β}
    (h : ∀ a, result = .ok a → (next a).AsksOne S) : (Action.ofExcept result >>= next).AsksOne S :=
  fun s => .bindExcept (fun a ha => h a ha s) fun _ _ => .of_prepares (by simp)

/-- What comes after the statement may fail, but must not refuse. -/
theorem before {action : Action σ α} {next : α → Action σ β} (h : action.AsksOne S)
    (hnext : ∀ a, (next a).Settles) : (action >>= next).AsksOne S := by
  refine fun s => (h s).bind (fun made a left hmade => ?_) fun made e _ hmade => ?_
  · -- what comes after makes no calls, and its refusals would be none
    refine (hnext a left).mono fun more result _ ⟨hmore, hsettled⟩ => ?_
    rw [hmore, List.append_nil]
    exact hmade.of_result fun e he hrefusal => absurd hrefusal (hsettled e he)
  · exact hmade.of_result fun f hf _ => congrArg Except.error (Except.error.inj hf)

theorem discard {action : Action σ α} (h : action.AsksOne S) :
    (do let _ ← action : Action σ Unit).AsksOne S :=
  h.before fun _ => .pure ()

/-- What is done on a part that keeps the calls is done on the whole. -/
theorem on {part : σ → τ} {replace : σ → τ → σ} {action : Action τ α}
    (hpart : ∀ s, Traced.calls (part s) = Traced.calls s)
    (hreplace : ∀ s t, Traced.calls (replace s t) = Traced.calls t) (h : action.AsksOne S) :
    (Action.on part replace action).AsksOne S :=
  fun s => .on (hpart s) (hreplace s) (h (part s))

end AsksOne

end Action

/-! ## What is made of answers

What operations do with an answer may fail, but by other errors than a refusal. -/

/-- Rows that are no entities are a fault of hydration. -/
theorem EntityType.hydrate_error {type : EntityType} {rows : List Row} {e : Error}
    (h : type.hydrate rows = .error e) : ¬ e.IsRefusal := by
  obtain ⟨_, row, _, -, -, hrow⟩ := first_of_mapM_eq_error h
  rw [ofRow] at hrow
  split at hrow
  · cases hrow
  · obtain rfl := Except.error.inj hrow
    exact id

/-- A count without a number is a fault of the query. -/
theorem Manager.countIn_error {table : String} {result : ResultSet} {e : Error}
    (h : countIn table result = .error e) : ¬ e.IsRefusal := by
  rw [countIn] at h
  split at h
  · obtain rfl := Except.error.inj h
    exact id
  · split at h
    · cases h
    · obtain rfl := Except.error.inj h
      exact id

/-- A read that can be made is the read of its query. -/
theorem Statement.select_of_ofSelect {q : Query} {s : Statement} (h : ofSelect q = .ok s) :
    ∃ table, s = .select table q := by
  obtain ⟨table, -, rfl⟩ := exists_of_made h
  exact ⟨table, rfl⟩

/-- An update that can be made is the one that was asked for. -/
theorem Statement.update_of_ofUpdate {table : String} {fields : Fields} {conditions : Condition}
    {s : Statement} (h : ofUpdate table fields conditions = .ok s) :
    s = .update table fields conditions := by
  rw [ofUpdate] at h
  split at h
  · cases h
  · exact (Except.ok.inj h).symm

/-- Conditions that pass the guard, where not every row is meant, restrict something. -/
theorem Driver.isEmpty_of_guardConditions {operation table : String} {conditions : Condition}
    (h : guardConditions operation table conditions false = .ok ()) :
    conditions.isEmpty = false := by
  rw [guardConditions] at h
  split at h
  next => exact absurd h (by simp)
  next hguard => simpa using hguard

/-! ## The operations one by one

Each lemma follows the steps of its operation: `.bind` as long as schemas are asked for, then the
statement, and `.before` for what is made of the answer. -/

namespace Manager

open EntityMapper.Action (AsksOne Settles)

variable {δ : Type}

/-- One statement of the driver is one statement of the manager. -/
theorem asksOne_onDriver {α : Type} {S : Statement → Prop} {action : Action (Watched δ) α}
    (h : action.AsksOne S) : (onDriver action : Action (Manager (Watched δ)) α).AsksOne S :=
  .on (fun _ => rfl) (fun _ _ => rfl) h

variable [Driver δ]

/-- The execution of a statement executes that statement. -/
theorem asksOne_execute (statement : Statement) :
    (Driver.execute statement : Action (Watched δ) ResultSet).AsksOne (· = statement) := by
  refine fun w => (Watched.ensures_watch (.execute statement) _ w).mono ?_
  rintro made result _ ⟨rfl, -⟩
  exact .of_execute rfl fun _ he _ => he

/-- Every operation executes its statement through `run`, which may have to open the connection. -/
theorem asksOne_run (statement : Statement) :
    (run statement : Action (Manager (Watched δ)) ResultSet).AsksOne (· = statement) :=
  .bind calls_ensureConnected fun _ => asksOne_onDriver (asksOne_execute statement)

/-! ### Reads

The statement is a select, a count or ready-made SQL. -/

theorem asksOne_find (type : EntityType) (query : Query) :
    (find type query : Action (Manager (Watched δ)) (List Entity)).AsksOne
      fun s => ∃ table query, s = .select table query := by
  refine .bind (calls_schema type) fun schema => ?_
  refine .before ((asksOne_run _).mono fun s hs => ⟨_, _, hs⟩) fun result => ?_
  exact .ofExcept fun _ => EntityType.hydrate_error

/-- A read of one entity is the first of those that are read. -/
theorem asksOne_findOne (type : EntityType) (query : Query) :
    (findOne type query : Action (Manager (Watched δ)) (Option Entity)).AsksOne
      fun s => ∃ table query, s = .select table query :=
  .before (asksOne_find type _) fun _ => .pure _

theorem asksOne_findBy (type : EntityType) (criteria : Criteria) :
    (findBy type criteria : Action (Manager (Watched δ)) (List Entity)).AsksOne
      fun s => ∃ table query, s = .select table query :=
  .bind (.ofExcept _) fun _ => asksOne_find type _

theorem asksOne_findOneBy (type : EntityType) (criteria : Criteria) :
    (findOneBy type criteria : Action (Manager (Watched δ)) (Option Entity)).AsksOne
      fun s => ∃ table query, s = .select table query :=
  .bind (.ofExcept _) fun _ => asksOne_findOne type _

theorem asksOne_findBySql (type : EntityType) (sql : String) (values : List Value) :
    (findBySql type sql values : Action (Manager (Watched δ)) (List Entity)).AsksOne
      (· = .raw sql values) := by
  refine .bind (calls_schema type) fun schema => ?_
  exact .before (asksOne_run _) fun result => .ofExcept fun _ => EntityType.hydrate_error

theorem asksOne_count (type : EntityType) (criteria : Criteria) :
    (count type criteria : Action (Manager (Watched δ)) Nat).AsksOne
      fun s => ∃ table query, s = .count table query := by
  refine .bind (.ofExcept _) fun conditions => ?_
  refine .bind (calls_schema type) fun schema => ?_
  refine .before ((asksOne_run _).mono fun s hs => ⟨_, _, hs⟩) fun result => ?_
  exact .ofExcept fun _ => countIn_error

/-! ### Writes

The statement is an insert or an update. -/

/-- The identifier is asked for if neither the fields nor the answer to the insert have the key.
This is the only call that is made behind a statement. -/
theorem asksOne_create (type : EntityType) (fields : Fields) :
    (create type fields : Action (Manager (Watched δ)) (Option Value)).AsksOne
      fun s => ∃ table, s = .insert table fields := by
  refine .bind (calls_schema type) fun schema => ?_
  refine .bind (.ofExcept _) fun _ m => ?_
  have hinsert : (onDriver (Driver.insert schema.table fields)
      : Action (Manager (Watched δ)) ResultSet).Ensures m
      fun made result _ => made = [.execute (.insert schema.table fields) result] :=
    ensures_onDriver ((Watched.ensures_watch (.execute (.insert schema.table fields))
      (Driver.execute (.insert schema.table fields)) m.driver).mono fun _ _ _ h => h.1)
  refine hinsert.bind ?_ ?_
  · rintro made answer left rfl
    -- with a key in the fields or in the answer, nothing more is asked
    cases (ownKey? schema fields).or answer.lastInsertId with
    | some key =>
      exact .still rfl (.of_execute ⟨_, rfl⟩ fun _ he _ => by cases he)
    | none =>
      refine ensures_onDriver
        ((Watched.ensures_watch .lastInsertId Driver.lastInsertId left.driver).mono ?_)
      rintro more id _ ⟨rfl, -⟩
      refine ⟨[], by simp, .inr ⟨_, .ok answer, [.lastInsertId id], ⟨schema.table, rfl⟩, rfl,
        .inr ⟨_, _, id, rfl, rfl⟩, fun e he _ => ⟨.lastInsertId id, by simp, he⟩⟩⟩
  · rintro made e left rfl
    exact .of_execute ⟨_, rfl⟩ fun f hf _ => by rw [Except.error.inj hf]

theorem asksOne_insert (type : EntityType) (entity : Entity) :
    (insert type entity : Action (Manager (Watched δ)) (Option Value)).AsksOne
      fun s => ∃ table fields, s = .insert table fields := by
  refine .bind (calls_schema type) fun schema => ?_
  refine .bind (.ofExcept _) fun fields => ?_
  exact (asksOne_create type _).mono fun s ⟨table, hs⟩ => ⟨table, _, hs⟩

/-- The guard has been passed by then, so conditions that restrict nothing are written only if every
row is meant. -/
theorem asksOne_updateRows (type : EntityType) (conditions : Condition) (fields : Fields)
    (everyRow : Bool) :
    (updateRows type conditions fields everyRow : Action (Manager (Watched δ)) Nat).AsksOne
      fun s => (everyRow = false → conditions.isEmpty = false)
        ∧ ∃ table, s = .update table fields conditions := by
  refine .bindExcept fun _ hguard => ?_
  refine .bind (calls_schema type) fun schema => ?_
  refine .bind (.ofExcept _) fun _ => asksOne_onDriver ?_
  refine .bind (.ofExcept _) fun _ => ?_
  refine .bindExcept fun statement hstatement => ?_
  refine .before ((asksOne_execute statement).mono ?_) fun _ => .pure _
  rintro s rfl
  refine ⟨?_, schema.table, Statement.update_of_ofUpdate hstatement⟩
  rintro rfl
  exact Driver.isEmpty_of_guardConditions hguard

/-! ### Relations -/

/-- A relation is loaded by the planned query at most. -/
theorem Loads.oneStatement {m : Manager δ} {owner target : EntityType} {r : Relation}
    {record : Record} {made : List Call} {result : Except Error (Related Record)}
    (h : Loads m owner target r record made result) :
    OneStatement (fun s => ∃ table query, s = .select table query) made result := by
  obtain ⟨preparing, last, rfl, hpreparing, hlast⟩ := h
  rcases hlast with ⟨rfl, -⟩ | ⟨_, _, -, ⟨-, rfl, -⟩ | ⟨query, s, answer, -, hs, rfl, rfl⟩⟩
  · exact .of_prepares (by simpa using hpreparing)
  · exact .of_prepares (by simpa using hpreparing)
  · obtain ⟨table, rfl⟩ := Statement.select_of_ofSelect hs
    refine .prepend hpreparing (.of_execute ⟨table, query, rfl⟩ fun e he hrefusal => ?_)
    cases answer with
    | error e' => exact congrArg Except.error (Except.error.inj he)
    | ok answered =>
      -- rows that are no entities are no refusal
      cases hrows : target.hydrate answered.rows with
      | ok entities => simp [Except.bind, hrows, Except.map] at he
      | error e' =>
        obtain rfl : e' = e := by simpa [Except.bind, hrows, Except.map] using he
        exact absurd hrefusal (EntityType.hydrate_error hrows)

/-- A slot that was loaded gives out what was loaded, so nothing is refused after that. -/
theorem asksOne_resolve (owner target : EntityType) (relation : String) :
    (resolve owner target relation : Action (Manager (Watched δ) × Entity) (Related Record)).AsksOne
      fun s => ∃ table query, s = .select table query := by
  refine .bind (.ask _) fun entity => ?_
  split
  · exact .of_prepares (.ofExcept _)
  · exact .of_prepares (.ofExcept _)
  · refine .bind (calls_besideEntity (calls_relationTo owner target relation)) fun r => ?_
    rintro ⟨m, entity'⟩
    -- a declared relation is loaded, and the calls are those of `Loads`
    obtain ⟨made, hcalls, hloads⟩ := ensures_load owner target r entity.record m
    rw [Action.Ensures, perform_loadInto_stored]
    exact ⟨made, hcalls, hloads.oneStatement⟩

end Manager

/-! ## All of them

The lemmas above, collected by operation. `Executes` says for each operation which statement it may
be. -/

namespace Operation

/-- The operations that execute one statement at most. Deletions are not among them, since what
depends on the rows is deleted before them. -/
def IsSingle : Operation → Prop
  | .create _ _ => True
  | .insert _ _ => True
  | .find _ _ => True
  | .findOne _ _ => True
  | .findBy _ _ => True
  | .findOneBy _ _ => True
  | .findBySql _ _ _ => True
  | .count _ _ => True
  | .update _ _ _ => True
  | .updateAll _ _ => True
  | .resolve _ _ _ _ => True
  | _ => False

/-- The statements that such an operation may execute. -/
def Executes : Operation → Statement → Prop
  | .create _ fields, s => ∃ table, s = .insert table fields
  | .insert _ _, s => ∃ table fields, s = .insert table fields
  | .findBySql _ sql values, s => s = .raw sql values
  | .count _ _, s => ∃ table query, s = .count table query
  | .update _ _ fields, s =>
    ∃ table conditions, conditions.isEmpty = false ∧ s = .update table fields conditions
  | .updateAll _ fields, s => ∃ table, s = .update table fields .empty
  | _, s => ∃ table query, s = .select table query

variable {δ : Type} [Driver δ]

/-- **One statement at most**, and one that the operation is there for. -/
theorem asksOne_action {op : Operation} (h : op.IsSingle) :
    (op.action : Action (Manager (Watched δ)) Unit).AsksOne op.Executes := by
  cases op with
  | create type fields => exact (Manager.asksOne_create type fields).discard
  | insert type entity => exact (Manager.asksOne_insert type entity).discard
  | find type query => exact (Manager.asksOne_find type query).discard
  | findOne type query => exact (Manager.asksOne_findOne type query).discard
  | findBy type criteria => exact (Manager.asksOne_findBy type criteria).discard
  | findOneBy type criteria => exact (Manager.asksOne_findOneBy type criteria).discard
  | findBySql type sql values => exact (Manager.asksOne_findBySql type sql values).discard
  | count type criteria => exact (Manager.asksOne_count type criteria).discard
  -- a mistake in the criteria ends an update before it begins
  | update type criteria fields =>
    refine Action.AsksOne.discard (.bind (.ofExcept _) fun conditions => ?_)
    refine (Manager.asksOne_updateRows type conditions fields false).mono ?_
    rintro s ⟨hrestricts, table, hs⟩
    exact ⟨table, conditions, hrestricts rfl, hs⟩
  | updateAll type fields =>
    exact ((Manager.asksOne_updateRows type .empty fields true).mono fun _ hs => hs.2).discard
  | resolve owner target relation entity =>
    exact Action.AsksOne.discard
      (.on (fun _ => rfl) (fun _ _ => rfl) (Manager.asksOne_resolve owner target relation))
  | _ => exact False.elim h

end Operation

end EntityMapper
