import EntityMapper.Manager.Basic
import EntityMapper.Proofs.Driver.Script

/-!
# Managers on a script

What an operation of a manager comes to when its driver answers from a script: the statements that
it means to execute, played until the first failure, and what follows if none of them fails
(`Plays`). Looking up a schema executes nothing, and statements change nothing that schemas are
looked up in, so the schemas that an operation will find can be told before it begins (`survey`).

## Structure

* `Plays` — an action plays some statements: they are executed in their order until one of them
  fails, and if none does, a postcondition holds. It composes by `bind`.
* `PlaysUnless` — the same for an action that may also stop between two statements, by a fault of a
  given kind; what was executed is then a beginning of the promised statements (`exists_executed`).
* `plays_run` — a statement by itself: the connection is opened, and the statement is played.
* `survey` — the schemas that will be found for some types, worked out before anything is executed.
  Statements do not change what is found (`survey_congr`).
-/

namespace EntityMapper.Manager

open Scripted (answer play)

variable {α β γ : Type}

/-! ## What is known about tables

What schemas depend on: the cache, the tables of the driver, and the naming. Statements change none
of them. -/

/-- Two managers that know the same tables and schemas, and name new ones in the same way. -/
structure Knows (m m' : Manager Scripted) : Prop where
  schemas : m'.schemas = m.schemas
  tables : m'.driver.tables = m.driver.tables
  naming : m'.naming = m.naming

theorem Knows.refl (m : Manager Scripted) : m.Knows m := ⟨rfl, rfl, rfl⟩

/-- What two managers know, they know in common. -/
theorem Knows.symm {m m' : Manager Scripted} (h : m.Knows m') : m'.Knows m :=
  ⟨h.schemas.symm, h.tables.symm, h.naming.symm⟩

/-- Managers that know the same as a third one know the same. -/
theorem Knows.trans {m m' m'' : Manager Scripted} (h : m.Knows m') (h' : m'.Knows m'') :
    m.Knows m'' :=
  ⟨h'.schemas.trans h.schemas, h'.tables.trans h.tables, h'.naming.trans h.naming⟩

/-! ## Playing

`Plays` is what a function on managers comes to on a script. Its lemmas build it up along the steps
of an action; the script of the second step is what the first one has left of it. -/

/-- The action plays the promised statements. If one of them fails, that failure is its result;
otherwise `Q` speaks of its result and of the state that it leaves. -/
def Plays (action : Action (Manager Scripted) α) (m : Manager Scripted) (promised : List Statement)
    (Q : Except Error α → Manager Scripted → Prop) : Prop :=
  (action.perform m).2.driver.log = m.driver.log ++ (play promised m.driver.script).1
  ∧ match (play promised m.driver.script).2 with
    | some e => (action.perform m).1 = .error e
    | none => (action.perform m).2.driver.script = m.driver.script.drop promised.length
      ∧ Q (action.perform m).1 (action.perform m).2

/-- A success of which, together with the state that is left, `Q` speaks. -/
def Succeeds (Q : α → Manager Scripted → Prop) (result : Except Error α)
    (left : Manager Scripted) : Prop :=
  ∃ a, result = .ok a ∧ Q a left

namespace Plays

variable {m : Manager Scripted} {promised : List Statement}

/-- What is said of the outcome may be weakened. -/
theorem mono {action : Action (Manager Scripted) α} {Q R : Except Error α → Manager Scripted → Prop}
    (h : Plays action m promised Q) (hQR : ∀ result left, Q result left → R result left) :
    Plays action m promised R := by
  obtain ⟨hlog, hplay⟩ := h
  refine ⟨hlog, ?_⟩
  cases hfailure : (play promised m.driver.script).2 with
  | some e => rwa [hfailure] at hplay
  | none =>
    rw [hfailure] at hplay
    exact hplay.imp_right (hQR _ _)

theorem still {action : Action (Manager Scripted) α} {Q : Except Error α → Manager Scripted → Prop}
    (hlog : (action.perform m).2.driver.log = m.driver.log)
    (hscript : (action.perform m).2.driver.script = m.driver.script)
    (hQ : Q (action.perform m).1 (action.perform m).2) : Plays action m [] Q :=
  ⟨by rw [hlog]; exact (List.append_nil _).symm, hscript, hQ⟩

/-- A result that is there needs no statement. -/
theorem pure (a : α) {Q : Except Error α → Manager Scripted → Prop} (hQ : Q (.ok a) m) :
    Plays (Pure.pure a) m [] Q :=
  still rfl rfl hQ

theorem ask (f : Manager Scripted → α) (m : Manager Scripted) :
    Plays (Action.ask f) m [] (Succeeds fun a left => a = f m ∧ m = left) :=
  still rfl rfl ⟨_, rfl, rfl, rfl⟩

/-- What is worked out without the driver, if it is no fault. -/
theorem ofExcept {result : Except Error α} {a : α} (h : result = .ok a) (m : Manager Scripted) :
    Plays (Action.ofExcept result) m [] (Succeeds fun a' left => a' = a ∧ m = left) :=
  still rfl rfl ⟨a, h, rfl, rfl⟩

/-- An action after another one. What it plays may depend on how the first one ended, so long as
nothing is promised behind a fault that no statement answered. -/
theorem bind {action : Action (Manager Scripted) α} {next : α → Action (Manager Scripted) β}
    {p q : List Statement} {Q : Except Error α → Manager Scripted → Prop}
    {R : Except Error β → Manager Scripted → Prop} (h : Plays action m p Q)
    (hok : ∀ a left, Q (.ok a) left → left.driver.script = m.driver.script.drop p.length →
      Plays (next a) left q R)
    (herror : ∀ e left, Q (.error e) left → q = [] ∧ R (.error e) left) :
    Plays (action >>= next) m (p ++ q) R := by
  obtain ⟨hlog, hplay⟩ := h
  rw [Plays, Action.perform_bind, Scripted.play_append]
  rcases hperform : action.perform m with ⟨result, left⟩
  rcases hplayed : play p m.driver.script with ⟨executed, failure?⟩
  simp only [hperform, hplayed] at hlog hplay ⊢
  cases failure? with
  | some e =>
    -- a statement failed, so nothing comes after
    obtain rfl : result = .error e := hplay
    exact ⟨hlog, rfl⟩
  | none =>
    obtain ⟨hscript, hQ⟩ := hplay
    cases result with
    | error e =>
      obtain ⟨rfl, hR⟩ := herror e left hQ
      exact ⟨by rw [hlog]; simp [play], by simpa [play] using ⟨hscript, hR⟩⟩
    | ok a =>
      obtain ⟨hlogNext, hplayNext⟩ := hok a left hQ hscript
      rw [hscript] at hlogNext hplayNext
      refine ⟨by rw [hlogNext, hlog, List.append_assoc], ?_⟩
      rw [List.length_append, ← List.drop_drop]
      exact hplayNext

/-- An action after one that cannot end in any fault but a failing statement. -/
theorem bindOk {action : Action (Manager Scripted) α} {next : α → Action (Manager Scripted) β}
    {p q : List Statement} {Q : α → Manager Scripted → Prop}
    {R : Except Error β → Manager Scripted → Prop} (h : Plays action m p (Succeeds Q))
    (hok : ∀ a left, Q a left → left.driver.script = m.driver.script.drop p.length →
      Plays (next a) left q R) :
    Plays (action >>= next) m (p ++ q) R := by
  refine h.bind (fun a left ⟨a', ha, hQ⟩ hscript => ?_) fun e left ⟨a', he, _⟩ => by cases he
  obtain rfl := Except.ok.inj ha
  exact hok a left hQ hscript

/-- What is said of the result and the state that is left may use that they are those of the action.
-/
theorem performed {action : Action (Manager Scripted) α}
    {Q : Except Error α → Manager Scripted → Prop}
    (h : Plays action m promised Q) :
    Plays action m promised fun result left => Q result left
      ∧ action.perform m = (result, left) := by
  obtain ⟨hlog, hplay⟩ := h
  refine ⟨hlog, ?_⟩
  cases hfailure : (play promised m.driver.script).2 with
  | some e => rwa [hfailure] at hplay
  | none =>
    rw [hfailure] at hplay
    exact ⟨hplay.1, hplay.2, rfl⟩

/-- What is executed is a beginning of what was promised, and all of it unless the action fails. -/
theorem executes {action : Action (Manager Scripted) α}
    {Q : Except Error α → Manager Scripted → Prop}
    (h : Plays action m promised Q) :
    ∃ executed, executed <+: promised ∧ (action.perform m).2.driver.log = m.driver.log ++ executed
      ∧ ∀ a, (action.perform m).1 = .ok a → executed = promised := by
  obtain ⟨hlog, hplay⟩ := h
  refine ⟨_, ?_, hlog, fun a ha => ?_⟩
  · -- a success has played all
    rcases Scripted.play_cases promised m.driver.script with ⟨-, hcase⟩ | ⟨i, e, -, -, -, hcase⟩
    · exact hcase ▸ List.prefix_rfl
    · exact hcase ▸ List.take_prefix _ _
  · rcases Scripted.play_cases promised m.driver.script with ⟨-, hcase⟩ | ⟨i, e, -, -, -, hcase⟩
    · rw [hcase]
    · rw [hcase, ha] at hplay
      cases hplay

end Plays

/-! ## Playing until something else goes wrong

Some faults come to light between two statements. Whether there may be such a fault is kept beside
what is promised, so that one lemma for each action tells what it comes to with and without it. -/

/-- The action fails, and has executed a beginning of the promised statements. -/
def CutShort (action : Action (Manager Scripted) α) (m : Manager Scripted)
    (promised : List Statement) :
    Prop :=
  ∃ executed e, executed <+: promised ∧ (action.perform m).2.driver.log = m.driver.log ++ executed
    ∧ (action.perform m).1 = .error e

/-- The action plays the promised statements, or is cut short, which it may only be if `fault`
holds. -/
def PlaysUnless (fault : Prop) (action : Action (Manager Scripted) α) (m : Manager Scripted)
    (promised : List Statement) (Q : Except Error α → Manager Scripted → Prop) : Prop :=
  Plays action m promised Q ∨ fault ∧ CutShort action m promised

namespace PlaysUnless

variable {fault : Prop} {m : Manager Scripted} {promised : List Statement}

/-- What is said of the outcome may be weakened. -/
theorem mono {action : Action (Manager Scripted) α} {Q R : Except Error α → Manager Scripted → Prop}
    (h : PlaysUnless fault action m promised Q)
    (hQR : ∀ result left, Q result left → R result left) :
    PlaysUnless fault action m promised R :=
  h.imp_left fun hplays => hplays.mono hQR

/-- A fault that comes to light without the driver. -/
theorem of_error {action : Action (Manager Scripted) α}
    {Q : Except Error α → Manager Scripted → Prop}
    {e : Error} (hfault : fault) (h : action.perform m = (.error e, m)) :
    PlaysUnless fault action m promised Q :=
  .inr ⟨hfault, [], e, List.nil_prefix, by rw [h, List.append_nil], by rw [h]⟩

/-- Where no fault may come to light, the action plays. -/
theorem plays {action : Action (Manager Scripted) α} {Q : Except Error α → Manager Scripted → Prop}
    (h : PlaysUnless False action m promised Q) : Plays action m promised Q :=
  h.elim id fun hcut => hcut.1.elim

/-- Whether it is cut short or not, the action never leaves the promised sequence. -/
theorem exists_executed {action : Action (Manager Scripted) α}
    {Q : Except Error α → Manager Scripted → Prop} (h : PlaysUnless fault action m promised Q) :
    ∃ executed, executed <+: promised
      ∧ (action.perform m).2.driver.log = m.driver.log ++ executed := by
  rcases h with hplays | ⟨-, executed, e, hprefix, hlog, -⟩
  · obtain ⟨executed, hprefix, hlog, -⟩ := hplays.executes
    exact ⟨executed, hprefix, hlog⟩
  · exact ⟨executed, hprefix, hlog⟩

/-- An action after another one, each of which may be cut short. -/
theorem bind {action : Action (Manager Scripted) α} {next : α → Action (Manager Scripted) β}
    {p q : List Statement} {Q : Except Error α → Manager Scripted → Prop}
    {R : Except Error β → Manager Scripted → Prop} (h : PlaysUnless fault action m p Q)
    (hok : ∀ a left, Q (.ok a) left → left.driver.script = m.driver.script.drop p.length →
      PlaysUnless fault (next a) left q R)
    (herror : ∀ e left, Q (.error e) left → q = [] ∧ R (.error e) left) :
    PlaysUnless fault (action >>= next) m (p ++ q) R := by
  rcases hperform : action.perform m with ⟨result, left⟩
  rcases h with hplays | ⟨hfault, executed, e, hprefix, hlog, hresult⟩
  · -- the second action decides, unless it is not reached
    by_cases hcut : ∃ a, result = .ok a ∧ fault ∧ CutShort (next a) left q
    · obtain ⟨a, rfl, hfault, more, e, hmorePrefix, hmore, hmoreResult⟩ := hcut
      obtain ⟨executed, -, hlog, hall⟩ := hplays.executes
      rw [hperform] at hlog hall
      obtain rfl := hall a rfl
      refine .inr
        ⟨hfault, executed ++ more, e, (List.prefix_append_right_inj executed).mpr hmorePrefix,
        ?_, ?_⟩
      · rw [Action.perform_bind, hperform, hmore, hlog, List.append_assoc]
      · rw [Action.perform_bind, hperform, hmoreResult]
    · refine .inl (hplays.performed.bind (fun a left' ⟨hQ, hleft⟩ hscript => ?_)
        fun e left' ⟨hQ, _⟩ => herror e left' hQ)
      obtain ⟨rfl, rfl⟩ := Prod.mk.inj (hperform.symm.trans hleft)
      rcases hok a left hQ hscript with hnext | hnext
      · exact hnext
      · exact absurd ⟨a, rfl, hnext⟩ hcut
  · rw [hperform] at hlog hresult
    obtain rfl : result = .error e := hresult
    refine .inr ⟨hfault, executed, e, hprefix.trans (List.prefix_append p q), ?_, ?_⟩
    · rw [Action.perform_bind, hperform, hlog]
    · rw [Action.perform_bind, hperform]

/-- An action after one that cannot end in any other fault but a failing statement, if it is not cut
short. -/
theorem bindOk {action : Action (Manager Scripted) α} {next : α → Action (Manager Scripted) β}
    {p q : List Statement} {Q : α → Manager Scripted → Prop}
    {R : Except Error β → Manager Scripted → Prop} (h : PlaysUnless fault action m p (Succeeds Q))
    (hok : ∀ a left, Q a left → left.driver.script = m.driver.script.drop p.length →
      PlaysUnless fault (next a) left q R) :
    PlaysUnless fault (action >>= next) m (p ++ q) R := by
  refine h.bind (fun a left ⟨a', ha, hQ⟩ hscript => ?_) fun e left ⟨a', he, _⟩ => by cases he
  obtain rfl := Except.ok.inj ha
  exact hok a left hQ hscript

/-- Items that are gone through one after the other. The state is such as `I` says before each of
them. -/
theorem forM {I : Manager Scripted → Prop} {items : List γ}
    {action : γ → Action (Manager Scripted) PUnit}
    {promise : γ → List Statement} (hm : I m)
    (h : ∀ x ∈ items, ∀ m, I m → PlaysUnless fault (action x) m (promise x)
      (Succeeds fun _ left => I left)) :
    PlaysUnless fault (items.forM action) m (items.flatMap promise)
        (Succeeds fun _ left => I left) := by
  induction items generalizing m with
  | nil => exact .inl (.pure () ⟨(), rfl, hm⟩)
  -- the first item, and then the others, which find the state as `I` says
  | cons x rest ih =>
    rw [List.flatMap_cons]
    refine (h x (by simp) m hm).bindOk fun _ left hleft _ => ?_
    exact ih hleft fun y hy => h y (List.mem_cons_of_mem _ hy)

end PlaysUnless

/-! ## Statements

The steps that execute something. -/

theorem plays_execute (statement : Statement) (m : Manager Scripted) :
    Plays (onDriver (Driver.execute statement)) m [statement]
      (Succeeds fun answered left => answer m.driver.script 0 = .ok answered ∧ m.Knows left) := by
  obtain ⟨hresult, hlog, hscript, htables⟩ := Scripted.execute_plays statement m.driver
  have hperform : (onDriver (Driver.execute statement)).perform m =
      ((m.driver.execute statement).1, { m with driver := (m.driver.execute statement).2 }) := rfl
  rw [Plays, hperform, play]
  cases hanswer : answer m.driver.script 0 with
  | error e => exact ⟨hlog, by rw [hresult, hanswer]⟩
  | ok answered =>
    refine ⟨hlog, ?_, answered, ?_, rfl, ⟨rfl, htables, rfl⟩⟩
    · rw [hscript]
      exact List.drop_one.symm
    · rw [hresult, hanswer]

/-- The connection is opened without a statement. -/
theorem plays_ensureConnected (m : Manager Scripted) :
    Plays ensureConnected m [] (Succeeds fun _ left => m.Knows left) := by
  have hperform : ∃ left : Manager Scripted, ensureConnected.perform m = (.ok (), left)
      ∧ left.driver.log = m.driver.log ∧ left.driver.script = m.driver.script ∧ m.Knows left := by
    rw [ensureConnected, Action.perform_bind, Action.perform_ask]
    cases hconnected : Driver.isConnected m.driver with
    | true => exact ⟨m, rfl, rfl, rfl, .refl m⟩
    | false => exact ⟨_, rfl, rfl, rfl, ⟨rfl, rfl, rfl⟩⟩
  obtain ⟨left, hperform, hlog, hscript, hknows⟩ := hperform
  refine .still (by rw [hperform, hlog]) (by rw [hperform, hscript]) ?_
  rw [hperform]
  exact ⟨(), rfl, hknows⟩

/-- Executing a statement through a manager opens the connection before. -/
theorem plays_run (statement : Statement) (m : Manager Scripted) :
    Plays (run statement) m [statement]
      (Succeeds fun answered left => answer m.driver.script 0 = .ok answered ∧ m.Knows left) := by
  refine (plays_ensureConnected m).bindOk (p := []) fun _ left hknows hscript => ?_
  refine (plays_execute statement left).mono fun result last ⟨answered, hresult, hanswer, hlast⟩ =>
    ?_
  rw [hscript] at hanswer
  exact ⟨answered, hresult, hanswer, hknows.trans hlast⟩

/-- The guard lets pass what restricts something, and what is meant for every row. -/
theorem guardConditions_eq_ok {conditions : Condition} {everyRow : Bool}
    (hguard : conditions.isEmpty = false ∨ everyRow = true) (operation table : String) :
    Driver.guardConditions operation table conditions everyRow = .ok () := by
  rw [Driver.guardConditions]
  rcases hguard with h | h <;> simp [h]

/-- A deletion that is not refused counts the rows that its statement touched. -/
theorem plays_delete {table : String} {conditions : Condition} {everyRow : Bool}
    (hguard : conditions.isEmpty = false ∨ everyRow = true) (m : Manager Scripted) :
    Plays (onDriver (Driver.delete table conditions everyRow)) m [.delete table conditions]
      (Succeeds fun n left =>
        (∃ answered, answer m.driver.script 0 = .ok answered ∧ n = answered.affected)
            ∧ m.Knows left) := by
  -- the driver's part of the deletion is the statement, whose answer is counted
  have hperform : (onDriver (Driver.delete table conditions everyRow)).perform m =
      (onDriver (Driver.execute (.delete table conditions)) >>= fun answered =>
        Pure.pure answered.affected).perform m := by
    rw [Action.perform_bind, onDriver, onDriver, Action.perform_on, Action.perform_on,
      Driver.delete, guardConditions_eq_ok hguard, Action.perform_bind, Action.perform_ofExcept]
    simp only [Action.perform_bind]
    rcases (Driver.execute (.delete table conditions)).perform m.driver with ⟨result, left⟩
    cases result <;> rfl
  have hplays : Plays (onDriver (Driver.execute (.delete table conditions)) >>= fun answered =>
      Pure.pure answered.affected) m ([.delete table conditions] ++ [])
      (Succeeds fun n left =>
        (∃ answered, answer m.driver.script 0 = .ok answered ∧ n = answered.affected)
            ∧ m.Knows left) :=
    (plays_execute (.delete table conditions) m).bindOk fun answered left ⟨hanswer, hknows⟩ _ =>
      .pure _ ⟨_, rfl, ⟨answered, hanswer, rfl⟩, hknows⟩
  rw [Plays, hperform]
  exact hplays

/-! ## Schemas

The steps that look up a schema. A driver on a script describes its tables without playing anything,
so their outcome is a function of the state (`found`). -/

/-- The schema that the tables of a script hold for an entity type. -/
def described (tables : List Table) (entity expected : String) : Except Error Schema := do
  let table ← Schema.tableNamed entity expected (tables.map Table.name)
  Schema.ofColumns entity table (Scripted.columnsOf { tables } table)

/-- A driver on a script describes a table by `described`, and plays nothing for it. -/
theorem perform_introspect (entity expected : String) (d : Scripted) : ∃ left : Scripted,
    (Schema.introspect entity expected).perform d = (described d.tables entity expected, left)
      ∧ left.log = d.log ∧ left.script = d.script ∧ left.tables = d.tables := by
  rw [Schema.introspect, described, Action.perform_bind]
  simp only [Action.perform_bind, Driver.listTables, Driver.listColumns, Action.perform_ofRun,
    Action.perform_ofExcept]
  cases Schema.tableNamed entity expected (d.tables.map Table.name) with
  | error e => exact ⟨_, rfl, rfl, rfl, rfl⟩
  | ok table => exact ⟨_, rfl, rfl, rfl, rfl⟩

/-- What is found in a cache and in the tables, and the cache that is left. -/
def found (cache : SchemaCache) (tables : List Table) (naming : Naming) (entity : String)
    (table? : Option String) : Except Error Schema × SchemaCache :=
  match cache.cached? entity with
  | some schema => (.ok schema, cache)
  | none =>
    match described tables entity (table?.getD (naming.tableName entity)) with
    | .ok schema => (.ok schema, cache.insert schema)
    | .error e => (.error e, cache)

/-- What looking up a schema comes to is what is found in the cache and in the tables, and no
statement is played. -/
theorem plays_schemaFor (entity : String) (table? : Option String) (m : Manager Scripted) :
    Plays (schemaFor entity table?) m [] fun result left =>
      (result, left.schemas) = found m.schemas m.driver.tables m.naming entity table?
        ∧ left.driver.tables = m.driver.tables ∧ left.naming = m.naming := by
  refine (plays_ensureConnected m).bindOk (p := []) fun _ opened hknows _ => ?_
  -- the cache has the schema, or the tables are listed and described; in neither case is anything
  -- executed
  have hperform : ∃ (result : Except Error Schema) (cache : SchemaCache) (driver : Scripted),
      (SchemaCache.get entity table? opened.naming).perform (opened.schemas, opened.driver) =
        (result, cache, driver)
      ∧ (result, cache) = found opened.schemas opened.driver.tables opened.naming entity table?
      ∧ driver.log = opened.driver.log ∧ driver.script = opened.driver.script
      ∧ driver.tables = opened.driver.tables := by
    cases hcached : opened.schemas.cached? entity with
    | some schema =>
      exact ⟨_, _, _, SchemaCache.perform_get_of_known hcached _,
        by simp [found, hcached], rfl, rfl, rfl⟩
    | none =>
      obtain ⟨left, hintrospect, hlog, hscript, htables⟩ :=
        perform_introspect entity (table?.getD (opened.naming.tableName entity)) opened.driver
      rw [SchemaCache.perform_get_of_unknown hcached, hintrospect]
      cases hdescribed : described opened.driver.tables entity
          (table?.getD (opened.naming.tableName entity)) with
      | ok schema =>
        exact ⟨_, _, _, rfl, by simp [found, hcached, hdescribed], hlog, hscript, htables⟩
      | error e =>
        exact ⟨_, _, _, rfl, by simp [found, hcached, hdescribed], hlog, hscript, htables⟩
  obtain ⟨result, cache, driver, hget, hfound, hlog, hscript, htables⟩ := hperform
  -- the rest of the manager stays as it is
  have hwhole : (Action.ask Manager.naming >>= fun naming =>
      onSchemas (SchemaCache.get entity table? naming)).perform opened =
        (result, { opened with schemas := cache, driver }) := by
    rw [Action.perform_bind, Action.perform_ask]
    show (onSchemas (SchemaCache.get entity table? opened.naming)).perform opened = _
    rw [onSchemas, Action.perform_on, hget]
  rw [hknows.schemas, hknows.tables, hknows.naming] at hfound
  refine .still (by rw [hwhole, hlog]) (by rw [hwhole, hscript]) ?_
  rw [hwhole]
  exact ⟨hfound, htables.trans hknows.tables, hknows.naming⟩

/-- Looking up a schema executes nothing, whatever comes of it. -/
theorem plays_lookup (entity : String) (table? : Option String) (m : Manager Scripted) :
    Plays (schemaFor entity table?) m [] fun result left =>
      (schemaFor entity table?).perform m = (result, left) :=
  ⟨(plays_schemaFor entity table? m).1, (plays_schemaFor entity table? m).2.1, rfl⟩

theorem perform_schemaFor (entity : String) (table? : Option String) (m : Manager Scripted) :
    (((schemaFor entity table?).perform m).1, ((schemaFor entity table?).perform m).2.schemas) =
        found m.schemas m.driver.tables m.naming entity table?
      ∧ ((schemaFor entity table?).perform m).2.driver.tables = m.driver.tables
      ∧ ((schemaFor entity table?).perform m).2.naming = m.naming :=
  (plays_schemaFor entity table? m).2.2

section Lookups

variable {entity : String} {table? : Option String} {m left : Manager Scripted}

theorem naming_of_lookup {result : Except Error Schema}
    (h : (schemaFor entity table?).perform m = (result, left)) : left.naming = m.naming := by
  have hnaming := (perform_schemaFor entity table? m).2.2
  rwa [h] at hnaming

/-- Looking up a schema executes nothing, so all is left to what comes after. -/
theorem plays_of_lookup {fault : Prop} {next : Schema → Action (Manager Scripted) α}
    {schema : Schema} {promised : List Statement} {R : Except Error α → Manager Scripted → Prop}
    (hlookup : (schemaFor entity table?).perform m = (.ok schema, left))
    (h : left.driver.script = m.driver.script → PlaysUnless fault (next schema) left promised R) :
    PlaysUnless fault (schemaFor entity table? >>= next) m promised R := by
  refine PlaysUnless.bind (p := []) (.inl (plays_lookup entity table? m))
    (fun found left' hfound hscript => ?_) fun e left' hfound => ?_
  · rw [hlookup] at hfound
    obtain ⟨hok, rfl⟩ := Prod.mk.inj hfound
    obtain rfl := Except.ok.inj hok
    exact h hscript
  · rw [hlookup] at hfound
    cases hfound

/-- If the schema is not to be had, nothing comes after. -/
theorem plays_of_lookup_error {next : Schema → Action (Manager Scripted) α} {e : Error}
    (hlookup : (schemaFor entity table?).perform m = (.error e, left)) :
    Plays (schemaFor entity table? >>= next) m [] fun result _ => result = .error e := by
  refine (plays_lookup entity table? m).bind (p := []) (fun found left' hfound _ => ?_)
    fun e' left' hfound => ?_
  · rw [hlookup] at hfound
    cases hfound
  · rw [hlookup] at hfound
    obtain ⟨he, -⟩ := Prod.mk.inj hfound
    exact ⟨rfl, by rw [Except.error.inj he]⟩

end Lookups

/-! ## Surveys

All schemas that an operation will look up, before it begins. -/

/-- The schemas of some entity types, looked up one after the other, up to the first that is not to
be had; and why it is not. Types are given with their tables, where these are not the default ones.
-/
def survey : List (String × Option String) → Manager Scripted → List Schema × Option Error
  | [], _ => ([], none)
  | (entity, table?) :: rest, m =>
    match (schemaFor entity table?).perform m with
    | (.ok schema, left) => (schema :: (survey rest left).1, (survey rest left).2)
    | (.error e, _) => ([], some e)

/-- A survey passes over all types, or over fewer if it ends in a fault. -/
theorem length_survey {types : List (String × Option String)} {m : Manager Scripted}
    {schemas : List Schema} {fault? : Option Error} (h : survey types m = (schemas, fault?)) :
    match fault? with
    | none => schemas.length = types.length
    | some _ => schemas.length < types.length := by
  induction types generalizing m schemas with
  | nil =>
    cases h
    rfl
  | cons type rest ih =>
    rw [survey] at h
    rcases hlookup : (schemaFor type.1 type.2).perform m with ⟨result, left⟩
    rw [hlookup] at h
    cases result with
    | error e =>
      cases h
      simp
    | ok schema =>
      obtain ⟨rfl, hfault⟩ := Prod.mk.inj h
      -- the rest of the survey has one type and one schema less
      have := ih (Prod.ext rfl hfault)
      cases fault? <;> simpa using this

/-- What is executed in between has no bearing on a survey. -/
theorem survey_congr {m m' : Manager Scripted} (h : m.Knows m')
    (types : List (String × Option String)) :
    survey types m' = survey types m := by
  induction types generalizing m m' with
  | nil => rfl
  | cons type rest ih =>
    obtain ⟨entity, table?⟩ := type
    obtain ⟨hfound, htables, hnaming⟩ := perform_schemaFor entity table? m
    obtain ⟨hfound', htables', hnaming'⟩ := perform_schemaFor entity table? m'
    rw [h.schemas, h.tables, h.naming, ← hfound] at hfound'
    rw [survey, survey]
    rcases hperform : (schemaFor entity table?).perform m with ⟨result, left⟩
    rcases hperform' : (schemaFor entity table?).perform m' with ⟨result', left'⟩
    simp only [hperform, hperform', Prod.mk.injEq] at hfound' htables hnaming htables' hnaming'
    obtain ⟨rfl, hschemas⟩ := hfound'
    -- after one lookup both managers know the same as before
    have hknows : left.Knows left' :=
      ⟨hschemas, by rw [htables', h.tables, htables], by rw [hnaming', h.naming, hnaming]⟩
    cases result' with
    | error e => rfl
    | ok schema => simp only [ih hknows]

end EntityMapper.Manager
