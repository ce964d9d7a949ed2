import EntityMapper.Proofs.Manager.Deletion
import EntityMapper.Proofs.Manager.Mirror

/-!
# Generated keys

A row is inserted under the key in its fields. If there is none, the key is what the answer to the
insert says, and if that says nothing either, what the driver remembers. A scripted driver remembers
the latest identifier that any answer gave, whatever statement it answered. So which key is answered
for a row depends on the whole run before it (`key_of_inserted_row`), and may be that of another row
(`other_rows_key_is_answered`).

## Structure

* `Gave` — how the state of a scripted driver at the end of a run is related to that at its
  beginning: by the identifiers that the answers in between gave. It is reflexive, goes through each
  statement (`Gave.execute`), and through every operation because operations are made of the actions
  of drivers (`invariant_gave`).
* `create_eq_ok` — what a successful creation did: it found the schema, executed the insert and took
  the key from one of three places.
* `key_of_inserted_row` — both together, over a run and one creation at its end.
-/

namespace EntityMapper

namespace Scripted

/-! ## What a driver remembers

Only the execution of a statement takes an answer from the script, and every action of a driver
either does so once or not at all. So `Gave` is an invariant of all drivers (`invariant_gave`). -/

/-- The identifier in an answer. -/
def identifier? : Except Error ResultSet → Option Value
  | .ok result => result.lastInsertId
  | .error _ => none

/-- The latest identifier in some answers, or else the one from before them. -/
def latest (before? : Option Value) (answers : List (Except Error ResultSet)) : Option Value :=
  answers.foldl (fun latest? answer => (identifier? answer).or latest?) before?

/-- A driver that has given some answers of its script since the start, and remembers their
identifiers. -/
structure Gave (start : Scripted) (given : List (Except Error ResultSet))
    (d : Scripted) : Prop where
  script : start.script = given ++ d.script
  remembers : d.lastInsertId? = latest start.lastInsertId? given

variable {start d : Scripted} {given : List (Except Error ResultSet)}

theorem Gave.refl (start : Scripted) : Gave start [] start := ⟨rfl, rfl⟩

/-- A statement leaves the identifier in its answer, or else the one from before. -/
theorem lastInsertId?_execute (statement : Statement) (d : Scripted) :
    (d.execute statement).2.lastInsertId? =
      (identifier? (answer d.script 0)).or d.lastInsertId? := by
  rcases d with ⟨dialect, isConnected, tables, script, log, affected, lastInsertId?, c, t, k⟩
  match script with
  | [] => rfl
  | .ok result :: rest => rfl
  | .error e :: rest => rfl

/-- Once a script is used up, there is no identifier in any answer. -/
theorem latest_take_one (before? : Option Value) (given script : List (Except Error ResultSet)) :
    latest before? (given ++ script.take 1) =
      (identifier? (answer script 0)).or (latest before? given) := by
  rw [latest, List.foldl_append]
  cases script <;> rfl

/-- A statement takes the next answer, if there is any left, and its identifier is remembered. -/
theorem Gave.execute (h : Gave start given d) (statement : Statement) :
    Gave start (given ++ d.script.take 1) (d.execute statement).2 := by
  refine ⟨?_, ?_⟩
  · rw [(execute_plays statement d).2.2.1, ← List.drop_one, List.append_assoc,
      List.take_append_drop, h.script]
  · rw [lastInsertId?_execute, latest_take_one, h.remembers]

/-- What a driver remembers is never anything but the identifiers of the answers that it gave. -/
theorem invariant_gave (start : Scripted) :
    Driver.Invariant fun d => ∃ given, Gave start given d where
  connect := fun d ⟨given, h⟩ => ⟨given, h.script, h.remembers⟩
  disconnect := fun d ⟨given, h⟩ => ⟨given, h.script, h.remembers⟩
  execute := fun statement d ⟨given, h⟩ => ⟨_, h.execute statement⟩
  mark := fun t d ⟨given, h⟩ => by
    have hmark : ((Driver.mark t).perform d).2 = (d.execute (.raw t.token [])).2 := by
      show (Action.perform (_ >>= _) d).2 = _
      rw [Action.perform_bind, Action.perform_ofRun]
      rcases d.execute (.raw t.token []) with ⟨result, left⟩
      cases result <;> rfl
    exact ⟨_, hmark ▸ h.execute _⟩
  listTables := fun d ⟨given, h⟩ => ⟨given, h.script, h.remembers⟩
  listColumns := fun table d ⟨given, h⟩ => ⟨given, h.script, h.remembers⟩
  lastInsertId := fun d ⟨given, h⟩ => ⟨given, h⟩

end Scripted

/-- An action that succeeds begins with one that does. -/
theorem Action.left_of_bind {σ α β : Type} {first : Action σ α} {next : α → Action σ β}
    {s : σ} {b : β} (h : ((first >>= next).perform s).1 = .ok b) :
    ∃ a left, first.perform s = (.ok a, left)
      ∧ (first >>= next).perform s = (next a).perform left := by
  rw [perform_bind] at h ⊢
  rcases hfirst : first.perform s with ⟨result, left⟩
  rw [hfirst] at h
  cases result with
  | error e => cases h
  | ok a => exact ⟨a, left, rfl, rfl⟩

namespace Manager

open Scripted (answer latest)

variable {type : EntityType} {m left : Manager Scripted} {schema : Schema} {fields : Fields}

/-! ## Inserting a row

An insert, step by step: the schema, the check of the columns, the statement, and the key. -/

/-- A schema is described for the entity that it is asked for. -/
theorem entity_of_described {tables : List Table} {entity expected : String}
    (h : described tables entity expected = .ok schema) : schema.entity = entity := by
  rw [described] at h
  cases hnamed : Schema.tableNamed entity expected (tables.map Table.name) with
  | error e => rw [hnamed] at h; cases h
  | ok table =>
    rw [hnamed] at h
    exact (Schema.ofColumns_eq_ok h).1

/-- What was found is in the cache from there on. -/
theorem cached?_of_found {cache left : SchemaCache} {tables : List Table} {naming : Naming}
    {entity : String}
    {table? : Option String} (h : found cache tables naming entity table? = (.ok schema, left)) :
    left.cached? entity = some schema := by
  rw [found] at h
  cases hcached : cache.cached? entity with
  -- known before, or described and put in under its own name
  | some known =>
    rw [hcached] at h
    obtain ⟨hschema, rfl⟩ := Prod.mk.inj h
    rw [hcached, Except.ok.inj hschema]
  | none =>
    rw [hcached] at h
    cases hdescribed : described tables entity (table?.getD (naming.tableName entity)) with
    | error e => simp [hdescribed] at h
    | ok new =>
      simp only [hdescribed, Prod.mk.injEq, Except.ok.injEq] at h
      obtain ⟨rfl, rfl⟩ := h
      rw [← entity_of_described hdescribed]
      exact cache.cached?_insert_self new

section Steps

variable {start : Scripted} {given : List (Except Error ResultSet)} {entity : String}
    {table? : Option String}

theorem lookup_again (h : (schemaFor entity table?).perform m = (.ok schema, left)) :
    ((schemaFor entity table?).perform left).1 = .ok schema := by
  obtain ⟨hfound, -, -⟩ := perform_schemaFor entity table? m
  obtain ⟨hagain, -, -⟩ := perform_schemaFor entity table? left
  rw [h] at hfound
  rw [found, cached?_of_found hfound.symm] at hagain
  exact (Prod.mk.inj hagain).1

/-- Looking up a schema executes nothing, so no answer is given. -/
theorem gave_of_lookup {result : Except Error Schema} (hm : start.Gave given m.driver)
    (h : (schemaFor entity table?).perform m = (result, left)) :
    start.Gave given left.driver ∧ left.driver.log = m.driver.log
      ∧ left.driver.script = m.driver.script := by
  obtain ⟨hlog, hscript, -⟩ := plays_lookup entity table? m
  rw [h] at hlog hscript
  have hscript : left.driver.script = m.driver.script := hscript
  -- some answers were given since the start
  obtain ⟨given', hleft⟩ : ∃ given', start.Gave given' left.driver := by
    have hleft := invariant_schemaFor (Scripted.invariant_gave start) entity table? ⟨given, hm⟩
    rwa [h] at hleft
  -- as many answers are left as before
  have hsame : given' = given := by
    have hboth := hleft.script.symm.trans hm.script
    rw [hscript] at hboth
    exact List.append_cancel_right hboth
  exact ⟨hsame ▸ hleft, hlog.trans (List.append_nil _), hscript⟩

/-- A statement that succeeds took a successful answer, and is the last one in the log. -/
theorem execute_eq_ok {statement : Statement} {result : ResultSet} (hm : start.Gave given m.driver)
    (h : (onDriver (Driver.execute statement)).perform m = (.ok result, left)) :
    answer m.driver.script 0 = .ok result ∧ left.driver.log = m.driver.log ++ [statement]
      ∧ left.driver.lastInsertId? = result.lastInsertId.or (latest start.lastInsertId? given) := by
  obtain ⟨hresult, rfl⟩ := Prod.mk.inj h
  obtain ⟨hanswer, hlog, -, -⟩ := Scripted.execute_plays statement m.driver
  have hanswer : answer m.driver.script 0 = .ok result := hanswer.symm.trans hresult
  have hremembers := Scripted.lastInsertId?_execute statement m.driver
  rw [hanswer, hm.remembers] at hremembers
  exact ⟨hanswer, hlog, hremembers⟩

/-- A row that is created is inserted by one statement. Its key comes from its own fields, from the
answer, or else from what the driver remembers by then. -/
theorem create_eq_ok (hm : start.Gave given m.driver) {key? : Option Value}
    (h : ((create type fields).perform m).1 = .ok key?) :
    ∃ schema result, ((Manager.schema type).perform m).1 = .ok schema
      ∧ ((create type fields).perform m).2.driver.log = m.driver.log
        ++ [.insert schema.table fields]
      ∧ answer m.driver.script 0 = .ok result
      ∧ key? = ((ownKey? schema fields).or result.lastInsertId).or
        (latest start.lastInsertId? given) := by
  rw [create] at h ⊢
  obtain ⟨schema, found, hlookup, hnext⟩ := Action.left_of_bind h
  rw [hnext] at h ⊢
  obtain ⟨_, _, hcolumns, hnext⟩ := Action.left_of_bind h
  obtain ⟨-, rfl⟩ := Prod.mk.inj hcolumns
  rw [hnext] at h ⊢
  obtain ⟨result, inserted, hinsert, hnext⟩ := Action.left_of_bind h
  rw [hnext] at h ⊢
  obtain ⟨hfound, hlogFound, hscript⟩ := gave_of_lookup hm hlookup
  obtain ⟨hanswer, hlog, hremembers⟩ := execute_eq_ok hfound hinsert
  rw [hscript] at hanswer
  rw [hlogFound] at hlog
  -- a key in the fields or in the answer decides, and the driver is not asked
  cases hkey : (ownKey? schema fields).or result.lastInsertId with
  | some key =>
    rw [hkey] at h
    exact ⟨schema, result,
      by rw [hlookup], hlog, hanswer, by rw [hkey]; exact (Except.ok.inj h).symm⟩
  | none =>
    rw [hkey] at h
    -- there is no identifier in the answer, so what is remembered was there before
    have hasked : inserted.driver.lastInsertId? = key? := Except.ok.inj h
    rw [hremembers, (Option.or_eq_none_iff.mp hkey).2] at hasked
    exact ⟨schema, result, by rw [hlookup], hlog, hanswer, by rw [hkey]; exact hasked.symm⟩

end Steps

/-! ## Runs

Whatever ran before, the driver has given some answers and remembers the latest identifier among
them. -/

/-- The actions that insert a row and answer its key, with the fields that they write. -/
inductive Creates (type : EntityType) :
    Action (Manager Scripted) (Option Value) → (Schema → Except Error Fields) → Prop
  | fields (fields : Fields) : Creates type (create type fields) fun _ => .ok fields
  | entity (entity : Entity) :
    Creates type (insert type entity) fun schema => entity.record.fields.map (newFields schema)

/-- **The key of an inserted row.** Whatever ran before and whatever the script answers: if a row is
inserted and a key answered for it, this is the key in its own fields; or else the identifier in the
answer to this very insert; or else the latest identifier in the answers that were given in the run
before it, to whatever statements, or what the driver remembered from before the run. -/
theorem key_of_inserted_row (start : Manager Scripted) (ops : List Operation)
    {action : Action (Manager Scripted) (Option Value)} {written : Schema → Except Error Fields}
    (hcreates : Creates type action written) {key? : Option Value}
    (h : (action.perform (afterAll ops start)).1 = .ok key?) :
    let m := afterAll ops start
    ∃ schema fields result given, ((Manager.schema type).perform m).1 = .ok schema
      ∧ written schema = .ok fields
      ∧ (action.perform m).2.driver.log = m.driver.log ++ [.insert schema.table fields]
      ∧ answer m.driver.script 0 = .ok result
      ∧ start.driver.script = given ++ m.driver.script
      ∧ key? = ((ownKey? schema fields).or result.lastInsertId).or
          (latest start.driver.lastInsertId? given) := by
  intro m
  -- no operation ends the invariant, so it holds after any run
  have hrun :=
    invariant_afterAll (Scripted.invariant_gave start.driver) ops ⟨[], .refl start.driver⟩
  obtain ⟨given, hgiven⟩ : ∃ given, start.driver.Gave given m.driver := hrun
  cases hcreates with
  | fields fields =>
    obtain ⟨schema, result, hschema, hlog, hanswer, hkey⟩ := create_eq_ok hgiven h
    exact ⟨schema, fields, result, given, hschema, rfl, hlog, hanswer, hgiven.script, hkey⟩
  | entity entity =>
    rw [insert] at h ⊢
    obtain ⟨first, found, hlookup, hnext⟩ := Action.left_of_bind h
    rw [hnext] at h ⊢
    obtain ⟨fields, _, hfields, hnext⟩ := Action.left_of_bind h
    obtain ⟨hread : entity.record.fields = .ok fields, rfl⟩ := Prod.mk.inj hfields
    rw [hnext] at h ⊢
    obtain ⟨hfound, hlogFound, hscript⟩ := gave_of_lookup hgiven hlookup
    obtain ⟨schema, result, hschema, hlog, hanswer, hkey⟩ := create_eq_ok hfound h
    obtain rfl : first = schema := Except.ok.inj ((lookup_again hlookup).symm.trans hschema)
    rw [hlogFound] at hlog
    rw [hscript] at hanswer
    refine ⟨first, _, result, given, by rw [hlookup], ?_, hlog, hanswer, hgiven.script, hkey⟩
    show entity.record.fields.map _ = _
    rw [hread]
    rfl

/-- The answer to an insert for which an identifier was generated. -/
def generated (n : Int64) : Except Error ResultSet :=
  .ok { affected := 1, lastInsertId := some (.int64 n) }

/-- The answer to the second insert has an identifier, so the key is this one. -/
theorem key_of_inserted_row_afterTag :
    let start := onTables ["tags", "comments"] [generated 42, generated 43]
    let m := afterAll [.create (Blog.tag "") .empty] start
    let action : Action (Manager Scripted) (Option Value) := create (Blog.comment "") .empty
    ∃ key? schema result given, (action.perform m).1 = .ok key? ∧ key?.map Value.display = some "43"
      ∧ (action.perform m).2.driver.log = m.driver.log ++ [.insert schema.table .empty]
      ∧ answer m.driver.script 0 = .ok result
      ∧ key? = ((ownKey? schema .empty).or result.lastInsertId).or
          (latest start.driver.lastInsertId? given) := by
  intro start m action
  -- the run itself can be evaluated; what it means is told by the theorem
  have hshown : (action.perform m).1.map (·.map Value.display) = .ok (some "43") := by
    decide +kernel
  cases hok : (action.perform m).1 with
  | error e =>
    rw [hok] at hshown
    cases hshown
  | ok key? =>
    rw [hok] at hshown
    obtain ⟨schema, fields, result, given, -, hfields, hlog, hanswer, -, hkey⟩ :=
      key_of_inserted_row start [.create (Blog.tag "") .empty] (.fields .empty) hok
    obtain rfl := Except.ok.inj hfields
    exact ⟨key?, schema, result, given, rfl, Except.ok.inj hshown, hlog, hanswer, hkey⟩

/-- The answer to the insert of a comment says nothing of a key, and the comment has none in its
fields; what is answered is the key of the tag. -/
theorem other_rows_key_is_answered :
    let m := afterAll [.create (Blog.tag "") .empty] (onTables ["tags", "comments"] [generated 42])
    let action : Action (Manager Scripted) (Option Value) := create (Blog.comment "") .empty
    (action.perform m).1.map (·.map Value.display) = .ok (some "42")
      ∧ (action.perform m).2.driver.log.map Statement.text =
        ["INSERT INTO tags DEFAULT VALUES", "INSERT INTO comments DEFAULT VALUES"]
      ∧ ¬ ∀ (start : Manager Scripted) (ops : List Operation) (type : EntityType) (fields : Fields)
        (k : Value),
        ((create type fields).perform (afterAll ops start)).1 = .ok (some k) →
        ∀ schema result, ((Manager.schema type).perform (afterAll ops start)).1 = .ok schema →
          answer (afterAll ops start).driver.script 0 = .ok result →
          ownKey? schema fields = some k ∨ result.lastInsertId = some k := by
  intro m action
  have hshown : (action.perform m).1.map (·.map Value.display) = .ok (some "42") := by
    decide +kernel
  refine ⟨hshown, by decide +kernel, fun h => ?_⟩
  obtain ⟨k, hkey⟩ : ∃ k, (action.perform m).1 = .ok (some k) := by
    rcases hresult : (action.perform m).1 with e | _ | k
    · rw [hresult] at hshown
      cases hshown
    · rw [hresult] at hshown
      cases hshown
    · exact ⟨k, rfl⟩
  have hschema : ((Manager.schema (Blog.comment "")).perform m).1 =
      .ok (keyed "Comment" "comments") := by
    decide +kernel
  have hscript : m.driver.script = [] := List.isEmpty_iff.mp (by decide +kernel)
  -- the script is played out, so the answer to the insert says nothing
  have hanswer : answer m.driver.script 0 = .ok {} := by rw [hscript]; rfl
  -- neither the fields nor the answer have a key
  rcases h _ _ _ _ k hkey _ _ hschema hanswer with hown | hanswered
  · cases hown
  · cases hanswered

end Manager

end EntityMapper
