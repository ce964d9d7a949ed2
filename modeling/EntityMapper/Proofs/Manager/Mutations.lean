import EntityMapper.Proofs.Manager.Single
import EntityMapper.Proofs.Statement.Restriction

/-!
# Mutations of every row

An update or delete without a `WHERE` clause reaches every row of its table. The guard that turns it
down looks at the condition, and what is executed is decided by the predicate that is written for
it; by `clause_eq_nil_iff` these agree. So in no run of operations does a statement of this kind
come from anything but the two operations that are meant to reach every row, of which it is the last
statement.

## Structure

* `Call.Restricted` — a call that executes no update and no delete without a clause.
* `unrestricted_update_iff`, `text_of_unrestricted_update` — the predicate of such a statement is
  empty, and so its text ends before the clause would begin; likewise for deletes.
* `EndsIn` — all calls are restricted, but for the last one. Deletions have this form
  (`endsIn_deleteRows`); all other operations are of one statement (`OneStatement`).
* `careful_action` — each operation by itself. `no_accidental_mutation` is the same for runs.
-/

namespace EntityMapper

/-- An update or delete without a `WHERE` clause. -/
def Statement.Unrestricted : Statement → Prop
  | .update _ _ conditions => conditions.clause "WHERE" = []
  | .delete _ conditions => conditions.clause "WHERE" = []
  | _ => False

/-- A call that executes no unrestricted statement. -/
def Call.Restricted (c : Call) : Prop := ∀ s, c.statement? = some s → ¬ s.Unrestricted

theorem Call.Prepares.restricted {c : Call} (h : c.Prepares) : c.Restricted := by
  intro s hs
  rw [h.statement] at hs
  exact absurd hs (by simp)

/-- A call that executes a restricted statement is restricted. -/
theorem Call.restricted_execute {s : Statement} (h : ¬ s.Unrestricted)
    (answer : Except Error ResultSet) :
    (Call.execute s answer).Restricted := by
  intro t ht
  rwa [← Option.some.inj ht]

/-! ## What the text shows

`Unrestricted` is about the clause that a statement is put together with. The text shows it, too:
whatever would follow the assignments or the table is missing. -/

namespace Statement

/-- An update is unrestricted just when its condition restricts nothing. -/
theorem unrestricted_update_iff {table : String} {fields : Fields} {conditions : Condition} :
    (update table fields conditions).Unrestricted ↔ conditions.isEmpty = true :=
  Condition.clause_eq_nil_iff

theorem unrestricted_delete_iff {table : String} {conditions : Condition} :
    (delete table conditions).Unrestricted ↔ conditions.isEmpty = true :=
  Condition.clause_eq_nil_iff

/-- An update is unrestricted just when its text ends behind the assignments. -/
theorem text_of_unrestricted_update (table : String) (fields : Fields) (conditions : Condition) :
    (update table fields conditions).Unrestricted
      ↔ (update table fields conditions).text = (update table fields .empty).text := by
  rw [unrestricted_update_iff, text_update, String.append_eq_left_iff,
    Condition.clauseText_eq_empty_iff]

/-- A delete is unrestricted just when its text ends behind the table. -/
theorem text_of_unrestricted_delete (table : String) (conditions : Condition) :
    (delete table conditions).Unrestricted
      ↔ (delete table conditions).text = s!"DELETE FROM {table}" := by
  rw [unrestricted_delete_iff, text_delete, String.append_eq_left_iff,
    Condition.clauseText_eq_empty_iff]

end Statement

/-- The guard looks at the condition, and so knows what will be written for it. -/
theorem Driver.restricted_delete {δ : Type} [Driver δ] (table : String) (conditions : Condition) :
    (delete table conditions false : Action (Watched δ) Nat).Calls Call.Restricted := by
  refine .bindExcept fun _ hguard => ?_
  have hrestricted : ¬ (Statement.delete table conditions).Unrestricted := by
    rw [Statement.unrestricted_delete_iff, isEmpty_of_guardConditions hguard]
    exact Bool.false_ne_true
  exact .bind (Watched.calls_watch (Call.restricted_execute hrestricted) _) fun _ => .pure _

/-! ## What is deleted with the owners

It is deleted by statements that say which rows are meant, also if the owners are all rows of their
table. -/

namespace Manager

variable {δ : Type} [Driver δ]

theorem restricted_schemaFor (entity : String) (table? : Option String) :
    (schemaFor entity table? : Action (Manager (Watched δ)) Schema).Calls Call.Restricted :=
  (calls_schemaFor entity table?).mono fun _ => Call.Prepares.restricted

theorem restricted_schema (type : EntityType) :
    (schema type : Action (Manager (Watched δ)) Schema).Calls Call.Restricted :=
  restricted_schemaFor type.name type.table?

/-- Executing one restricted statement makes restricted calls. -/
theorem restricted_run {statement : Statement} (h : ¬ statement.Unrestricted) :
    (run statement : Action (Manager (Watched δ)) ResultSet).Calls Call.Restricted :=
  calls_run (fun _ => Call.Prepares.restricted) (Call.restricted_execute h)

/-- What goes with one owner is deleted through the guard. -/
theorem restricted_deleteRelated (r : Relation) (owner target : Schema) (row : Row) :
    (deleteRelated r owner target row : Action (Manager (Watched δ)) Unit).Calls
      Call.Restricted := by
  refine .bind (.ask _) fun naming => ?_
  refine .bind (.ofExcept _) fun removal? => ?_
  cases removal? with
  | none => exact .pure ()
  | some removal =>
    refine .bind (calls_onDriver (Driver.restricted_delete _ _)) fun _ => ?_
    exact .pure ()

/-- The owners are read, and what goes with each of them is deleted. Two loops, over the relations
and over the owners. -/
theorem restricted_deleteAllDependents (type : EntityType) (schema : Schema)
    (conditions : Condition) :
    (deleteAllDependents type schema conditions : Action (Manager (Watched δ)) Unit).Calls
      Call.Restricted := by
  refine .bind (calls_onRelations _) fun declared => ?_
  cases declared.relations.filter Relation.removesRows with
  | nil => exact .pure ()
  | cons r rest =>
    refine .bind (restricted_run id) fun owners => ?_
    refine .forM fun r => ?_
    refine .bind (restricted_schemaFor _ _) fun target => ?_
    exact .forM fun row => restricted_deleteRelated r schema target row

/-! ## The last statement

An operation that may reach every row does so by its last statement. -/

/-- Restricted calls, with at most one more call behind them that executes one of the statements
`S`. -/
def EndsIn (S : Statement → Prop) (made : List Call) : Prop :=
  ∃ first last, made = first ++ last ∧ (∀ c ∈ first, c.Restricted)
    ∧ (last = [] ∨ ∃ s answer, S s ∧ last = [.execute s answer])

/-- Without calls there is nothing unrestricted. -/
theorem EndsIn.nil {S : Statement → Prop} : EndsIn S [] := ⟨[], [], rfl, by simp, .inl rfl⟩

/-- An unrestricted statement among such calls is the last one of them, and one of `S`. -/
theorem EndsIn.last {S : Statement → Prop} {made before rest : List Call} {s : Statement}
    {answer : Except Error ResultSet} (h : EndsIn S made)
    (hmade : made = before ++ .execute s answer :: rest)
    (hs : s.Unrestricted) : S s ∧ rest = [] := by
  obtain ⟨first, last, hsplit, hfirst, hlast⟩ := h
  have hmem : Call.execute s answer ∉ first := fun hmem => hfirst _ hmem s rfl hs
  -- so it stands in `last`, which has room for one call
  have hlast' : ∃ skipped, last = skipped ++ .execute s answer :: rest := by
    rcases List.append_eq_append_iff.mp (hmade.symm.trans hsplit) with
      ⟨middle, hfirst, hrest⟩ | ⟨skipped, -, hrest⟩
    · -- the statement is the first call of `last`, or it would stand in `first`
      cases middle with
      | nil => exact ⟨[], hrest.symm⟩
      | cons c middle =>
        obtain ⟨rfl, -⟩ := List.cons.inj hrest
        exact absurd (by simp [hfirst]) hmem
    · exact ⟨skipped, hrest⟩
  obtain ⟨skipped, hskipped⟩ := hlast'
  rcases hlast with rfl | ⟨t, answer', ht, rfl⟩
  · simp at hskipped
  · cases skipped with
    | nil =>
      obtain ⟨hcall, hrest⟩ := List.cons.inj hskipped
      obtain ⟨rfl, -⟩ := Call.execute.inj hcall
      exact ⟨ht, hrest.symm⟩
    | cons c skipped => simp at hskipped

section EndsIn

variable {σ α β : Type} [Traced σ] {S : Statement → Prop}

/-- What comes before is restricted, so the last statement is that of what follows. -/
theorem EndsIn.bind {action : Action σ α} {next : α → Action σ β} (h : action.Calls Call.Restricted)
    (hnext : ∀ a s, (next a).Ensures s fun made _ _ => EndsIn S made) (s : σ) :
    (action >>= next).Ensures s fun made _ _ => EndsIn S made := by
  refine (h s).bind (fun made a left hmade => ?_) fun made _ _ hmade => ?_
  · refine (hnext a left).mono fun more _ _ hmore => ?_
    obtain ⟨first, last, rfl, hfirst, hlast⟩ := hmore
    exact ⟨made ++ first, last, by simp, List.forall_mem_append.mpr ⟨hmade, hfirst⟩, hlast⟩
  · exact ⟨made, [], by simp, hmade, .inl rfl⟩

end EndsIn

/-- One statement of `S` and no other call. -/
theorem EndsIn.execute {S : Statement → Prop} {s : Statement} (hs : S s) {β : Type}
    (f : ResultSet → β) (w : Watched δ) :
    ((do return f (← Driver.execute s)) : Action (Watched δ) β).Ensures w fun made _ _ =>
      EndsIn S made := by
  have hexecute := Watched.ensures_watch (.execute s) (Driver.execute s) w
  refine hexecute.bind (fun made result left hmade => ?_) fun made e left hmade => ?_
  · refine Action.Ensures.still rfl ?_
    exact ⟨[], made, by simp, by simp, .inr ⟨s, .ok result, hs, hmade.1⟩⟩
  · exact ⟨[], made, by simp, by simp, .inr ⟨s, .error e, hs, hmade.1⟩⟩

/-- Of the calls of one statement, nothing comes after one that reaches rows which are there. -/
theorem EndsIn.of_oneStatement {S : Statement → Prop} {α : Type} {made : List Call}
    {result : Except Error α} (h : OneStatement S made result) : EndsIn S made := by
  obtain ⟨preparing, hpreparing, rfl | ⟨s, answer, after, hs, rfl, hafter, -⟩⟩ := h
  · exact ⟨made, [], by simp, fun c hc => (hpreparing c hc).restricted, .inl rfl⟩
  · have hrestricted : ∀ c ∈ preparing, c.Restricted := fun c hc => (hpreparing c hc).restricted
    rcases hafter with rfl | ⟨table, fields, generated, rfl, rfl⟩
    · exact ⟨preparing, _, rfl, hrestricted, .inr ⟨s, answer, hs, rfl⟩⟩
    · -- an insert is restricted itself, and so is the question behind it
      refine ⟨_, [], (List.append_nil _).symm, ?_, .inl rfl⟩
      refine List.forall_mem_append.mpr ⟨hrestricted, List.forall_mem_cons.mpr ⟨?_, ?_⟩⟩
      · exact Call.restricted_execute id answer
      · exact List.forall_mem_singleton.mpr fun _ hs => by cases hs

/-- What goes with the owners is deleted first. Then the owners are, and all rows of their table
only if that is meant. -/
theorem endsIn_deleteRows (type : EntityType) (conditions : Condition) (everyRow : Bool)
    (m : Manager (Watched δ)) :
    (deleteRows type conditions everyRow).Ensures m fun made _ _ =>
      EndsIn (fun s => (everyRow = false → conditions.isEmpty = false)
        ∧ ∃ table, s = .delete table conditions)
        made := by
  refine .bindExcept (fun _ hguard => ?_) fun _ _ => .nil
  refine EndsIn.bind (restricted_schema type) (fun schema => ?_) m
  refine EndsIn.bind (restricted_deleteAllDependents type schema conditions) fun _ m =>
    ensures_onDriver ?_
  refine EndsIn.bind (.ofExcept _) (fun _ w => ?_) m.driver
  refine EndsIn.execute ⟨?_, schema.table, rfl⟩ _ w
  rintro rfl
  exact Driver.isEmpty_of_guardConditions hguard

/-! ## Runs

From single operations to runs by `journal_of_ensures`. -/

/-- The calls of an operation in which each unrestricted statement is the last one and is what the
operation is there for. -/
def Careful (op : Operation) (made : List Call) : Prop :=
  ∀ before s answer rest, made = before ++ .execute s answer :: rest → s.Unrestricted →
    rest = []
      ∧ ((∃ type fields table, op = .updateAll type fields ∧ s = .update table fields .empty)
      ∨ ∃ type table, op = .deleteAll type ∧ s = .delete table .empty)

/-- Restricted calls are those of a careful operation, whichever it is. -/
theorem Careful.of_restricted {op : Operation} {made : List Call} (h : ∀ c ∈ made, c.Restricted) :
    Careful op made := by
  rintro before s answer rest rfl hs
  exact absurd hs (h (.execute s answer) (by simp) s rfl)

/-- An operation is careful if its last statement is, and nothing before it is unrestricted. -/
theorem Careful.of_endsIn {op : Operation} {S : Statement → Prop} {made : List Call}
    (h : EndsIn S made) (hS : ∀ s, S s → s.Unrestricted →
      (∃ type fields table, op = .updateAll type fields ∧ s = .update table fields .empty)
        ∨ ∃ type table, op = .deleteAll type ∧ s = .delete table .empty) : Careful op made := by
  intro before s answer rest hmade hs
  obtain ⟨hstatement, hrest⟩ := h.last hmade hs
  exact ⟨hrest, hS s hstatement hs⟩

/-- Of the operations of one statement, it is setting fields on every row that executes an
unrestricted one. -/
theorem updateAll_of_unrestricted {op : Operation} {s : Statement} (h : op.Executes s)
    (hs : s.Unrestricted) :
    ∃ type fields table, op = .updateAll type fields ∧ s = .update table fields .empty := by
  cases op with
  | updateAll type fields =>
    obtain ⟨table, rfl⟩ := h
    exact ⟨type, fields, table, rfl, rfl⟩
  -- the guard has seen this condition
  | update type criteria fields =>
    obtain ⟨table, conditions, hrestricts, rfl⟩ := h
    rw [Statement.unrestricted_update_iff, hrestricts] at hs
    exact absurd hs Bool.false_ne_true
  | findBySql type sql values =>
    obtain rfl := h
    exact False.elim hs
  | insert type entity =>
    obtain ⟨table, fields, rfl⟩ := h
    exact False.elim hs
  | create type fields =>
    obtain ⟨table, rfl⟩ := h
    exact False.elim hs
  | _ =>
    obtain ⟨table, query, rfl⟩ := h
    exact False.elim hs

/-- That the result is dropped makes no difference to the calls. -/
theorem ensures_discard {σ α : Type} [Traced σ] {action : Action σ α} {s : σ} {Q : List Call → Prop}
    (h : action.Ensures s fun made _ _ => Q made) :
    (do let _ ← action : Action σ Unit).Ensures s fun made _ _ => Q made :=
  h.bind (fun made _ _ hmade => .still rfl (by rwa [List.append_nil])) fun _ _ _ hmade => hmade

omit [Driver δ] in
/-- A call that executes nothing is restricted. -/
theorem restricted_onDriver_watch {α : Type} {call : Except Error α → Call} {action : Action δ α}
    (h : ∀ answer, (call answer).statement? = none) :
    (onDriver (Watched.watch call action) : Action (Manager (Watched δ)) α).Calls Call.Restricted :=
  calls_onDriver (Watched.calls_watch (fun answer s hs => by simp [h answer] at hs) action)

/-- Every operation is careful. Those of one statement are by `asksOne_action`, the deletions by
`endsIn_deleteRows`, and all others execute nothing or ready-made SQL. -/
theorem careful_action (op : Operation) (m : Manager (Watched δ)) :
    op.action.Ensures m fun made _ _ => Careful op made := by
  by_cases hsingle : op.IsSingle
  · exact (Operation.asksOne_action hsingle m).mono fun _ _ _ hmade =>
      .of_endsIn (.of_oneStatement hmade) fun _ hs hunrestricted =>
        .inl (updateAll_of_unrestricted hs hunrestricted)
  have hconnected : (ensureConnected : Action (Manager (Watched δ)) Unit).Calls Call.Restricted :=
    calls_ensureConnected.mono fun _ => Call.Prepares.restricted
  cases op with
  | connect => exact (restricted_onDriver_watch (fun _ => rfl) m).mono fun _ _ _ => .of_restricted
  | disconnect =>
    exact (restricted_onDriver_watch (fun _ => rfl) m).mono fun _ _ _ => .of_restricted
  | begin =>
    exact (hconnected.bind (fun _ => restricted_onDriver_watch fun _ => rfl) m).mono
      fun _ _ _ => .of_restricted
  | commit => exact (restricted_onDriver_watch (fun _ => rfl) m).mono fun _ _ _ => .of_restricted
  | rollback => exact (restricted_onDriver_watch (fun _ => rfl) m).mono fun _ _ _ => .of_restricted
  | execute sql values =>
    -- ready-made SQL is taken as it is, and is no update or delete of this project's making
    exact ensures_discard ((restricted_run id m).mono fun _ _ _ => .of_restricted)
  | delete type criteria =>
    refine ensures_discard
      (.bindExcept (fun conditions _ => ?_) fun _ _ => .of_restricted (by simp))
    refine (endsIn_deleteRows type conditions false m).mono fun _ _ _ hends => .of_endsIn hends ?_
    rintro s ⟨hrestricts, table, rfl⟩ hs
    rw [Statement.unrestricted_delete_iff, hrestricts rfl] at hs
    exact absurd hs Bool.false_ne_true
  | deleteAll type =>
    refine ensures_discard
      ((endsIn_deleteRows type .empty true m).mono fun _ _ _ hends => .of_endsIn hends ?_)
    rintro s ⟨-, table, rfl⟩ -
    exact .inr ⟨type, table, rfl, rfl⟩
  | learn schemas relations => exact .still rfl (.of_restricted (by simp))
  | _ => exact absurd trivial hsingle

/-- **No accidental mutation.** Whatever driver is watched: in the journal of every run, which has
all calls of the run, an update or delete without a `WHERE` clause is the last call of an operation
that sets fields on every row or deletes every row. An update or delete by criteria that restrict
nothing fails at once, and leaves the manager, with the driver and the calls made to it, as it was.
The text of a statement shows whether it is of this kind: it then ends behind the assignments or the
table. -/
theorem no_accidental_mutation (ops : List Operation) (m : Manager (Watched δ)) :
    (afterAll ops m).forget = afterAll ops m.forget
    ∧ (afterAll ops m).driver.calls = m.driver.calls ++ (journal ops m).flatMap Prod.snd
    ∧ (∀ op made, (op, made) ∈ journal ops m → Careful op made)
    ∧ (∀ type criteria conditions, Criteria.read criteria = .ok conditions →
      conditions.isEmpty = true →
      (∀ fields, (update type criteria fields).perform m
        = (.error (.unconditionalMutation "update" type.tableHint), m))
      ∧ (delete type criteria).perform m =
        (.error (.unconditionalMutation "delete" type.tableHint), m))
    ∧ (∀ table fields conditions, (Statement.update table fields conditions).Unrestricted
        ↔ (Statement.update table fields conditions).text =
          (Statement.update table fields .empty).text)
    ∧ ∀ table conditions, (Statement.delete table conditions).Unrestricted
        ↔ (Statement.delete table conditions).text = s!"DELETE FROM {table}" := by
  obtain ⟨hcalls, hcareful⟩ := journal_of_ensures careful_action ops m
  refine ⟨forget_afterAll ops m, hcalls, fun op made hentry => hcareful (op, made) hentry, ?_,
    Statement.text_of_unrestricted_update, Statement.text_of_unrestricted_delete⟩
  intro type criteria conditions hread hempty
  -- the guard is asked before anything else is done
  have hguard : ∀ operation, Driver.guardConditions operation type.tableHint conditions false
      = .error (.unconditionalMutation operation type.tableHint) := by
    intro operation
    simp [Driver.guardConditions, hempty]
  refine ⟨fun fields => ?_, ?_⟩
  · simp [update, updateRows, Action.perform_bind, hread, hguard]
  · simp [delete, deleteRows, Action.perform_bind, hread, hguard]

/-- Conditions that restrict nothing, for all their parts. -/
def hollow : Condition := .group .not [.all [], .group .or [.raw "  " [], .group .xor []]]

/-- A condition with many parts that all say nothing is refused as an empty one is. -/
theorem no_accidental_mutation_hollow :
    Criteria.read (.condition hollow) = .ok hollow ∧ hollow.isEmpty = true
    ∧ (∀ op made,
      (op, made) ∈ journal [.deleteAll (Blog.post ""), .delete (Blog.post "") (.condition hollow)]
        ({ driver := { driver := {} } } : Manager (Watched Scripted)) → Careful op made)
    ∧ (delete (Blog.post "") (.condition hollow)).perform
        ({ driver := { driver := {} } } : Manager (Watched Scripted))
      = (.error (.unconditionalMutation "delete" "Post"), { driver := { driver := {} } }) := by
  have hempty : hollow.isEmpty = true := by decide
  obtain ⟨-, -, hcareful, hrefused, -⟩ :=
    no_accidental_mutation [.deleteAll (Blog.post ""), .delete (Blog.post "") (.condition hollow)]
      ({ driver := { driver := {} } } : Manager (Watched Scripted))
  exact ⟨rfl, hempty, hcareful, (hrefused (Blog.post "") (.condition hollow) hollow rfl hempty).2⟩

end Manager

end EntityMapper
