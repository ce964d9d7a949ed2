import EntityMapper.Proofs.Manager.Single

/-!
# Refusals

An operation is refused for its conditions, for what it would do to a whole table, for a table, a
column or a relation that is not there. By then nothing was executed (`Operation.refused`), since
the checks of an operation come before its one statement, and what is made of the answer refuses
nothing. Which check it is that ends an operation follows from their order: first the schema, then
the columns, and at last the fields that there are to set (`Operation.Enters`).

## Structure

* `Operation.refused` — an operation that is refused has executed nothing. It is read off from
  `OneStatement`, so no operation is gone through here.
* `Operation.Enters` — an operation that looks up the schema of a type at its beginning, and what it
  does then.
* `perform_of_schema_error`, `perform_of_columns_error`, `perform_of_no_fields` — the three checks
  behind that, in their order. Each says what the outcome is when the checks before it are passed.
-/

namespace EntityMapper

namespace Operation

variable {δ : Type} [Driver δ]

/-- A refused operation of one statement has executed nothing, if the driver answers with no
refusals. -/
theorem refused {op : Operation} (h : op.IsSingle) (m : Manager (Watched δ)) :
    op.action.Ensures m fun made result _ => (∀ c ∈ made, ∀ f, c.Fails f → ¬ f.IsRefusal) →
      ∀ e, result = .error e → e.IsRefusal → ∀ c ∈ made, c.Silent := by
  refine (asksOne_action h m).mono fun made result _ hmade hdriver e he hrefusal => ?_
  rcases hmade.refused he hrefusal with hsilent | ⟨c, hc, hfails⟩
  · exact hsilent
  · exact absurd hrefusal (hdriver c hc e hfails)

/-! ## Checks in their order -/

/-- An operation on the instances of a type, other than a deletion, that gets past the reading of
its criteria and past the guard. What it does then begins with the schema. -/
inductive Enters (type : EntityType) : Operation → Prop
  | create (fields : Fields) : Enters type (.create type fields)
  | insert (entity : Entity) : Enters type (.insert type entity)
  | find (query : Query) : Enters type (.find type query)
  | findOne (query : Query) : Enters type (.findOne type query)
  | findBy {criteria : Criteria} {conditions : Condition} (hread : criteria.read = .ok conditions) :
      Enters type (.findBy type criteria)
  | findOneBy {criteria : Criteria} {conditions : Condition}
      (hread : criteria.read = .ok conditions) :
      Enters type (.findOneBy type criteria)
  | findBySql (sql : String) (values : List Value) : Enters type (.findBySql type sql values)
  | count {criteria : Criteria} {conditions : Condition} (hread : criteria.read = .ok conditions) :
      Enters type (.count type criteria)
  | update {criteria : Criteria} {conditions : Condition} (fields : Fields)
      (hread : criteria.read = .ok conditions) (hrestricts : conditions.isEmpty = false) :
      Enters type (.update type criteria fields)
  | updateAll (fields : Fields) : Enters type (.updateAll type fields)

/-- The fields that an operation sets on rows that are there. -/
def updates? : Operation → Option Fields
  | .update _ _ fields => some fields
  | .updateAll _ fields => some fields
  | _ => none

/-- The fields that an operation sets on new rows or on rows that are there. -/
def fields? : Operation → Option Fields
  | .create _ fields => some fields
  | op => op.updates?

variable {type : EntityType} {op : Operation} {m left : Manager δ} {schema : Schema}
    {fields : Fields}

/-- Without a schema there is nothing else that such an operation does. -/
theorem Enters.perform_of_schema_error {e : Error} (h : op.Enters type)
    (hschema : (Manager.schema type).perform m = (.error e, left)) :
    op.action.perform m = (.error e, left) := by
  cases h with
  -- each operation looks up the schema as soon as it has entered
  | create fields => simp [action, Manager.create, Action.perform_bind, hschema]
  | insert entity => simp [action, Manager.insert, Action.perform_bind, hschema]
  | find query => simp [action, Manager.find, Action.perform_bind, hschema]
  | findOne query => simp [action, Manager.findOne, Manager.find, Action.perform_bind, hschema]
  | findBy hread => simp [action, Manager.findBy, Manager.find, Action.perform_bind, hread, hschema]
  | findOneBy hread =>
    simp [action, Manager.findOneBy, Manager.findOne, Manager.find, Action.perform_bind,
      hread, hschema]
  | findBySql sql values => simp [action, Manager.findBySql, Action.perform_bind, hschema]
  | count hread => simp [action, Manager.count, Action.perform_bind, hread, hschema]
  | update fields hread hrestricts =>
    simp [action, Manager.update, Manager.updateRows, Action.perform_bind, hread, hrestricts,
      Driver.guardConditions, hschema]
  | updateAll fields =>
    simp [action, Manager.updateAll, Manager.updateRows, Action.perform_bind,
      Driver.guardConditions, hschema]

/-- Columns that the table lacks are what is found out next. -/
theorem Enters.perform_of_columns_error {e : Error} (h : op.Enters type)
    (hfields : op.fields? = some fields)
    (hschema : (Manager.schema type).perform m = (.ok schema, left))
    (hcolumns : Manager.checkColumns schema fields = .error e) :
    op.action.perform m = (.error e, left) := by
  cases h with
  | create created =>
    obtain rfl : created = fields := Option.some.inj hfields
    simp [action, Manager.create, Action.perform_bind, hschema, hcolumns]
  -- the criteria are read, and the guard lets them pass
  | update updated hread hrestricts =>
    obtain rfl : updated = fields := Option.some.inj hfields
    simp [action, Manager.update, Manager.updateRows, Action.perform_bind, hread, hrestricts,
      Driver.guardConditions, hschema, hcolumns]
  | updateAll updated =>
    obtain rfl : updated = fields := Option.some.inj hfields
    simp [action, Manager.updateAll, Manager.updateRows, Action.perform_bind,
      Driver.guardConditions, hschema, hcolumns]
  | _ => exact absurd hfields (by simp [fields?, updates?])

/-- At last, an update needs something to set. -/
theorem Enters.perform_of_no_fields (h : op.Enters type) (hfields : op.updates? = some fields)
    (hempty : fields.isEmpty = true)
    (hschema : (Manager.schema type).perform m = (.ok schema, left))
    (hcolumns : Manager.checkColumns schema fields = .ok ()) :
    op.action.perform m =
      (.error (.query s!"Update of '{schema.table}' has no fields to set"), left) := by
  -- both kinds of updates come down to this action
  have hrows : ∀ conditions everyRow,
      (∀ table, Driver.guardConditions "update" table conditions everyRow = .ok ()) →
      (Manager.updateRows type conditions fields everyRow).perform m
        = (.error (.query s!"Update of '{schema.table}' has no fields to set"), left) := by
    intro conditions everyRow hguard
    simp only [Manager.updateRows, Action.perform_bind, Action.perform_ofExcept, hguard, hschema,
      hcolumns, Manager.onDriver, Action.perform_on, Driver.update, Statement.ofUpdate,
      if_pos hempty]
  cases h with
  | @update criteria conditions updated hread hrestricts =>
    obtain rfl : updated = fields := Option.some.inj hfields
    have hupdate := hrows conditions false fun table => by simp [Driver.guardConditions, hrestricts]
    simp only [action, Manager.update, Action.perform_bind, Action.perform_ofExcept, hread, hupdate]
  | updateAll updated =>
    obtain rfl : updated = fields := Option.some.inj hfields
    have hupdate := hrows .empty true fun table => by simp [Driver.guardConditions]
    simp only [action, Manager.updateAll, Action.perform_bind, hupdate]
  | _ => exact absurd hfields (by simp [updates?])

end Operation

namespace Manager

variable {δ : Type} {schema : Schema} {fields : Fields}

/-- If a column is lacking, the check names one that is, the first among the fields. -/
theorem checkColumns_of_lacking {column : String} (hmem : column ∈ fields.keys)
    (hlacks : schema.hasColumn column = false) :
    ∃ lacking ∈ fields.keys, schema.hasColumn lacking = false ∧ checkColumns schema fields
      = .error (.missingSchema schema.entity
          s!"column '{lacking}' does not exist on table '{schema.table}'") := by
  rw [checkColumns]
  cases hfind : fields.keys.find? fun column => !schema.hasColumn column with
  | none =>
    have hall := List.find?_eq_none.mp hfind column hmem
    simp [hlacks] at hall
  | some lacking =>
    refine ⟨lacking, List.mem_of_find?_eq_some hfind, ?_, rfl⟩
    simpa using List.find?_some hfind

/-- Without fields there is no column to lack. -/
theorem checkColumns_of_isEmpty (h : fields.isEmpty = true) :
    checkColumns schema fields = .ok () := by
  have hkeys : fields.keys = [] := by
    simpa [Dict.keys, Dict.isEmpty] using h
  simp [checkColumns, hkeys]

variable [Driver δ]

/-- The table of a type is looked for among those that the driver lists; if it is not there, that is
all that happens. -/
theorem perform_schema_of_absent {type : EntityType} {m opened : Manager δ} {listed : δ}
    {tables : List String} (hunknown : m.schemas.cached? type.name = none)
    (hconnect : ensureConnected.perform m = (.ok (), opened))
    (htables : Driver.listTables.perform opened.driver = (.ok tables, listed))
    (habsent : ∀ t ∈ tables,
      Text.sameIgnoringAsciiCase t (type.table?.getD (m.naming.tableName type.name)) = false) :
    (Manager.schema type).perform m
      = (.error (.missingTable type.name (type.table?.getD (m.naming.tableName type.name))),
          { opened with driver := listed }) := by
  -- to open the connection changes neither the schemas nor the naming
  have hkeeps : (opened.schemas, opened.naming) = (m.schemas, m.naming) := by
    have hkeeps : (ensureConnected : Action (Manager δ) Unit).Keeps fun m =>
        (m.schemas, m.naming) :=
      keeps_ensureConnected fun _ _ => rfl
    have h := hkeeps m
    rwa [hconnect] at h
  obtain ⟨hschemas, hnaming⟩ := Prod.mk.inj hkeeps
  rw [← hschemas] at hunknown
  rw [← hnaming] at habsent ⊢
  have hintrospect := Schema.perform_introspect_of_absent type.name htables habsent
  rw [Manager.schema, schemaFor, Action.perform_bind, hconnect]
  simp [Action.perform_bind, onSchemas, SchemaCache.perform_get_of_unknown hunknown, hintrospect]

theorem silent_schema_left {type : EntityType} {m left : Manager (Watched δ)}
    {result : Except Error Schema} (h : (Manager.schema type).perform m = (result, left)) :
    ∃ made, left.driver.calls = m.driver.calls ++ made ∧ ∀ c ∈ made, c.Silent := by
  obtain ⟨made, hcalls, hmade⟩ := calls_schema type m
  rw [h] at hcalls
  exact ⟨made, hcalls, fun c hc => (hmade c hc).statement⟩

/-- **A refused operation never reaches the database.** Take any manager, and any operation but a
deletion. If it is refused, nothing was executed, unless the driver itself answers statements with
refusals. In particular, beyond the reading of criteria and the guard:

* if the schema of the type is not known and its table is not among those that are listed, the
  operation ends there, without asking for columns;
* a column that the table lacks ends the creation of a row and every update;
* an update that passes these checks ends if there are no fields to set.

That the driver is watched makes no difference. -/
theorem refusals_execute_nothing (op : Operation) (m : Manager (Watched δ)) :
    op.action.perform m.forget = ((op.action.perform m).1, (op.action.perform m).2.forget)
    ∧ (op.IsSingle → op.action.Ensures m fun made result _ =>
        (∀ c ∈ made, ∀ f, c.Fails f → ¬ f.IsRefusal) →
          ∀ e, result = .error e → e.IsRefusal → ∀ c ∈ made, c.Silent)
    ∧ (∀ type, op.Enters type → ∀ opened tables listed, m.schemas.cached? type.name = none →
        ensureConnected.perform m = (.ok (), opened) →
        Driver.listTables.perform opened.driver = (.ok tables, listed) →
        (∀ t ∈ tables,
          Text.sameIgnoringAsciiCase t (type.table?.getD (m.naming.tableName type.name)) = false) →
        op.action.perform m
          = (.error (.missingTable type.name (type.table?.getD (m.naming.tableName type.name))),
              { opened with driver := listed })
        ∧ ∃ connecting, listed.calls = m.driver.calls ++ connecting ++ [.listTables (.ok tables)]
            ∧ ∀ c ∈ connecting, ∃ answer, c = .connect answer)
    ∧ ∀ type, op.Enters type → ∀ schema left, (Manager.schema type).perform m = (.ok schema, left) →
        (∃ made, left.driver.calls = m.driver.calls ++ made ∧ ∀ c ∈ made, c.Silent)
        ∧ (∀ fields, op.fields? = some fields → ∀ column ∈ fields.keys,
          schema.hasColumn column = false →
            ∃ lacking ∈ fields.keys, schema.hasColumn lacking = false
              ∧ op.action.perform m = (.error (.missingSchema schema.entity
                  s!"column '{lacking}' does not exist on table '{schema.table}'"), left))
        ∧ (∀ fields, op.updates? = some fields → fields.isEmpty = true →
            op.action.perform m
              = (.error (.query s!"Update of '{schema.table}' has no fields to set"), left)) := by
  refine ⟨mirrors_action op m, fun hsingle => Operation.refused hsingle m, ?_, ?_⟩
  · intro type henters opened tables listed hunknown hconnect htables habsent
    refine ⟨henters.perform_of_schema_error
      (perform_schema_of_absent hunknown hconnect htables habsent), ?_⟩
    -- the only calls are those that open the connection, and the one that lists the tables
    obtain ⟨connecting, hopened, hconnecting⟩ :=
      calls_ensureConnected_of (P := fun c => ∃ answer, c = .connect answer) (fun _ => ⟨_, rfl⟩) m
    obtain ⟨asked, hlisted, hasked, -⟩ :=
      Watched.ensures_watch .listTables Driver.listTables opened.driver
    have htables : (Watched.watch .listTables Driver.listTables).perform opened.driver =
        (.ok tables, listed) :=
      htables
    rw [hconnect] at hopened
    rw [htables] at hlisted hasked
    have hopened : opened.driver.calls = m.driver.calls ++ connecting := hopened
    have hlisted : listed.calls = opened.driver.calls ++ asked := hlisted
    exact ⟨connecting, by rw [hlisted, hopened, hasked], hconnecting⟩
  · intro type henters schema left hschema
    refine ⟨silent_schema_left hschema, fun fields hfields column hmem hlacks => ?_,
      fun fields hfields hempty => ?_⟩
    · obtain ⟨lacking, hlacking, hwithout, hcolumns⟩ := checkColumns_of_lacking hmem hlacks
      exact ⟨lacking, hlacking, hwithout, henters.perform_of_columns_error hfields hschema hcolumns⟩
    · exact henters.perform_of_no_fields hfields hempty hschema (checkColumns_of_isEmpty hempty)

/-- A manager that knows the schema of posts and has no table for tags. -/
def postsOnly : Manager (Watched Scripted) :=
  { driver := { driver := { isConnected := true } }
    schemas := ({} : SchemaCache).insert
      ⟨"Post", "posts", [⟨"id", "INTEGER", false, true, none⟩], "id"⟩ }

/-- Each check once: no fields to set, a column that is not there, and a table that is not there. -/
theorem refusals_execute_nothing_postsOnly :
    (Operation.updateAll (Blog.post "") .empty).action.perform postsOnly
      = (.error (.query "Update of 'posts' has no fields to set"), postsOnly)
    ∧ (Operation.create (Blog.post "") (Dict.ofList [("rank", .int32 1)])).action.perform postsOnly
      = (.error (.missingSchema "Post" "column 'rank' does not exist on table 'posts'"), postsOnly)
    ∧ ((Operation.count (Blog.tag "") (.condition .empty)).action.perform postsOnly).1
      = .error (.missingTable "Tag" "tags")
    ∧ ∀ c ∈ ((Operation.count (Blog.tag "") (.condition .empty)).after postsOnly).driver.calls,
      c.Silent := by
  have hposts : (Manager.schema (Blog.post "")).perform postsOnly
      = (.ok ⟨"Post", "posts", [⟨"id", "INTEGER", false, true, none⟩], "id"⟩, postsOnly) := rfl
  obtain ⟨-, -, -, hupdate⟩ := refusals_execute_nothing (.updateAll (Blog.post "") .empty) postsOnly
  obtain ⟨-, -, -, hcreate⟩ :=
    refusals_execute_nothing (.create (Blog.post "") (Dict.ofList [("rank", .int32 1)])) postsOnly
  obtain ⟨-, hsingle, hcount, -⟩ :=
    refusals_execute_nothing (.count (Blog.tag "") (.condition .empty)) postsOnly
  obtain ⟨hmissing, -⟩ := hcount (Blog.tag "") (.count rfl) postsOnly [] _ rfl rfl rfl (by simp)
  refine ⟨?_, ?_, by rw [hmissing]; rfl, ?_⟩
  · exact (hupdate (Blog.post "") (.updateAll _) _ _ hposts).2.2 .empty rfl rfl
  · obtain ⟨lacking, hlacking, -, hrefused⟩ :=
      (hcreate (Blog.post "") (.create _) _ _ hposts).2.1 _ rfl "rank" (by decide) (by decide)
    obtain rfl : lacking = "rank" := List.mem_singleton.mp hlacking
    exact hrefused
  · -- the listing of tables is the only call
    obtain ⟨made, hcalls, hmade⟩ := hsingle trivial
    have hcalls : [Call.listTables (.ok [])] = made := hcalls
    subst hcalls
    exact hmade (by simp [Call.Fails]) (.missingTable "Tag" "tags") (by rw [hmissing]; rfl) trivial

end Manager

end EntityMapper
