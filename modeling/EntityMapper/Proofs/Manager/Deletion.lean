import EntityMapper.Manager.Writes
import EntityMapper.Proofs.Manager.Resolution
import EntityMapper.Proofs.Manager.Script
import EntityMapper.Proofs.Relation.Scope
import EntityMapper.Proofs.Row.Views

/-!
# Deleting owners

Before owners are deleted, the rows that depend on them are: relation after relation, and for each
relation owner after owner. The statements that a deletion means to execute can be told from the
declarations, the schemas and the owners that the first answer holds; how far it gets is a matter of
the answers, and of the schemas, which are looked up one relation at a time.

## Structure

* `removals` — the statements that a deletion promises, from the declarations, the schemas of the
  targets (`typesToDelete`, `survey`) and the owners that the first answer holds (`ownersRead`).
* `plays_deleteRelated` — the step: one owner and one relation, with one statement or none.
* `plays_deleteDependents`, `plays_allDependents` — the two loops, over owners and over relations. A
  loop plays the statements of its rounds one after the other (`PlaysUnless.forM`).
* `plays_deleteRows` — the whole: the owners are read, what depends on them is deleted, and then
  they are.
* `deletes_dependents_first` — what this says of the log, by the answers of the script.
  `missing_schema_stops_halfway` is the case of a schema that is not found in between.
-/

namespace EntityMapper

/-! ## Keys of owners

Which rows go with an owner is told by its key. It is read from the row as JSON (`Row.key?`), and an
owner without a key has nothing that depends on it. -/

namespace Row

/-- The value in a column of a row, unless it is null. The row is taken as a document, in which a
column that occurs twice has its last value, and a number that is not finite is null. -/
def key? (row : Row) (column : String) : Option Value :=
  ((row.toJson.get? column).map Value.ofJson).filter fun key => !key.isNull

theorem isNull_of_key? {row : Row} {column : String} {key : Value}
    (h : row.key? column = some key) :
    key.isNull = false := by
  simpa using (Option.filter_eq_some_iff.mp h).2

end Row

namespace Relation

variable (r : Relation) (naming : Naming) (owner target : Schema)

/-- The statement that deletes what goes with an owner of the given key. -/
def deletion (key : Value) : Statement :=
  .delete (r.removalOf naming owner target key).table
    (r.removalOf naming owner target key).conditions

/-- The statements for some owners: one for each that has a key. -/
def deletions (owners : List Row) : List Statement :=
  owners.filterMap fun row => (row.key? owner.key).map (r.deletion naming owner target)

/-- Of an owner with its key column, the removal is the one for its key, or there is none if the key
is null. -/
theorem removal_toJson (hremoves : r.removesRows = true) {row : Row} (h : owner.key ∈ row.columns) :
    r.removal naming owner target row.toJson =
      .ok ((row.key? owner.key).map (r.removalOf naming owner target)) := by
  obtain ⟨json, hjson⟩ := Option.isSome_iff_exists.mp (Row.isSome_get?_toJson h)
  rw [removal, if_pos hremoves, ownerValue, Row.key?, hjson]
  show Except.ok _ = Except.ok _
  -- a key that is null is as good as none
  cases hnull : (Value.ofJson json).isNull <;> simp [Option.filter, hnull]

/-- Without its key column, there is no telling what goes with an owner. -/
theorem removal_of_lacking (hremoves : r.removesRows = true) {row : Row}
    (h : owner.key ∉ row.columns) :
    ∃ e, r.removal naming owner target row.toJson = .error e := by
  rw [removal, if_pos hremoves, ownerValue, Row.get?_toJson_eq_none h]
  exact ⟨_, rfl⟩

end Relation

/-! ## Promised statements

The sequence of statements that a deletion means to execute, as a function of the declarations, the
schemas and the rows of the first answer. -/

namespace Declarations

/-- The relations whose rows go with their owners, in the order of their declaration. -/
def dependents (d : Declarations) : List Relation := d.relations.filter Relation.removesRows

end Declarations

namespace Manager

open Scripted (answer play)

/-- The types whose schemas a deletion looks up, in this order. -/
def typesToDelete (type : EntityType) (dependents : List Relation) :
    List (String × Option String) :=
  (type.name, type.table?) :: dependents.map fun r => (r.target.entity, r.target.table?)

/-- The owners that the first answer of a script holds. -/
def answeredOwners (script : List (Except Error ResultSet)) : List Row :=
  match answer script 0 with
  | .ok result => result.rows
  | .error _ => []

/-- Owners are read only if something depends on them. -/
def ownersRead (dependents : List Relation) (owner : Schema) (conditions : Condition) :
    List Statement :=
  if dependents.isEmpty then []
  else [.select owner.table ((Query.ofTable owner.table).withConditions conditions)]

/-- What is deleted of the relations whose targets have these schemas. -/
def removals (naming : Naming) (dependents : List Relation) (owner : Schema) (targets : List Schema)
    (owners : List Row) : List Statement :=
  (dependents.zip targets).flatMap fun (r, target) => r.deletions naming owner target owners

/-! ## Playing them

One lemma for each function that deletes, from the inside out: a row of a relation, a relation, all
relations, and the whole. A row that lacks its key column may cut them short, which is the fault of
`PlaysUnless` here. -/

variable {r : Relation} {owner target : Schema} {m : Manager Scripted} {fault : Prop}

/-- One row of one relation, whose key column is there. -/
theorem plays_deleteRelated (hremoves : r.removesRows = true) {row : Row}
    (h : owner.key ∈ row.columns) (m : Manager Scripted) :
    Plays (deleteRelated r owner target row) m
      ((row.key? owner.key).map (r.deletion m.naming owner target)).toList
      (Succeeds fun _ left => m.Knows left) := by
  refine (Plays.ask Manager.naming m).bindOk (p := []) ?_
  rintro _ _ ⟨rfl, rfl⟩ -
  refine (Plays.ofExcept (r.removal_toJson m.naming owner target hremoves h) m).bindOk (p := []) ?_
  rintro _ _ ⟨rfl, rfl⟩ -
  cases hkey : row.key? owner.key with
  | none => exact .pure () ⟨(), rfl, .refl m⟩
  | some key =>
    -- the statement is scoped to the owner, so the guard lets it pass
    have hne := (r.removal_scopes m.naming owner target (Row.isNull_of_key? hkey)).ne
    refine (plays_delete (.inl hne) m).bindOk (p := [_]) (q := []) ?_
    rintro n left ⟨-, hknows⟩ -
    exact .pure () ⟨(), rfl, hknows⟩

/-- Without its key column, a row ends the deletion before a statement is made for it. -/
theorem perform_deleteRelated_of_lacking (target : Schema) (hremoves : r.removesRows = true)
    {row : Row} (h : owner.key ∉ row.columns) (m : Manager Scripted) :
    ∃ e, (deleteRelated r owner target row).perform m = (.error e, m) := by
  obtain ⟨e, he⟩ := r.removal_of_lacking m.naming owner target hremoves h
  refine ⟨e, ?_⟩
  rw [deleteRelated, Action.perform_bind, Action.perform_ask]
  show Action.perform (_ >>= _) m = _
  rw [Action.perform_bind, he]
  rfl

/-- The rows of one relation, once the schema of its target is found. -/
theorem plays_deleteDependents (hremoves : r.removesRows = true) {owners : List Row}
    (howners : ∀ row ∈ owners, owner.key ∈ row.columns ∨ fault) {left : Manager Scripted}
    (hlookup : (schemaFor r.target.entity r.target.table?).perform m = (.ok target, left)) :
    PlaysUnless fault (deleteDependents owner owners r) m (r.deletions m.naming owner target owners)
      (Succeeds fun _ last => left.Knows last) := by
  refine plays_of_lookup hlookup fun _ => ?_
  unfold Relation.deletions
  rw [List.filterMap_eq_flatMap_toList]
  -- between two rows, what is known of schemas stays as it is
  refine PlaysUnless.forM (I := left.Knows) (.refl left) fun row hrow m' hm' => ?_
  have hrelated : PlaysUnless fault (deleteRelated r owner target row) m'
      ((row.key? owner.key).map (r.deletion m'.naming owner target)).toList
      (Succeeds fun _ last => m'.Knows last) := by
    by_cases hkey : owner.key ∈ row.columns
    · exact .inl (plays_deleteRelated hremoves hkey m')
    · obtain ⟨e, he⟩ := perform_deleteRelated_of_lacking target hremoves hkey m'
      exact .of_error ((howners row hrow).resolve_left hkey) he
  rw [hm'.naming, naming_of_lookup hlookup] at hrelated
  exact hrelated.mono fun result last ⟨_, hresult, hlast⟩ => ⟨(), hresult, hm'.trans hlast⟩

/-- The result of asking for schemas, as far as it decides over what comes after. -/
def surveyed : Option Error → Except Error Unit
  | none => .ok ()
  | some e => .error e

/-- All dependents, up to the first relation whose target has no schema. -/
theorem plays_allDependents {dependents : List Relation}
    (hremoves : ∀ r ∈ dependents, r.removesRows = true)
    {owners : List Row} (howners : ∀ row ∈ owners, owner.key ∈ row.columns ∨ fault)
    (m : Manager Scripted) {targets : List Schema} {fault? : Option Error}
    (hsurvey : survey (dependents.map fun r => (r.target.entity, r.target.table?)) m =
      (targets, fault?)) :
    PlaysUnless fault (dependents.forM (deleteDependents owner owners)) m
      (removals m.naming dependents owner targets owners)
      fun result _ => result = surveyed fault? := by
  induction dependents generalizing m targets with
  | nil =>
    cases hsurvey
    exact .inl (.pure () rfl)
  | cons r rest ih =>
    rw [List.map_cons, survey] at hsurvey
    rcases hlookup : (schemaFor r.target.entity r.target.table?).perform m with ⟨result, left⟩
    rw [hlookup] at hsurvey
    cases result with
    | error e =>
      obtain ⟨rfl, rfl⟩ := Prod.mk.inj hsurvey
      refine PlaysUnless.bind (p := []) (q := []) (.inl (plays_of_lookup_error hlookup)) ?_ ?_
      · intro _ _ h
        cases h
      · rintro e' _ he
        exact ⟨rfl, he⟩
    | ok target =>
      obtain ⟨rfl, rfl⟩ := Prod.mk.inj hsurvey
      rw [removals, List.zip_cons_cons, List.flatMap_cons]
      refine (plays_deleteDependents (hremoves r (by simp)) howners hlookup).bindOk
        fun _ last hknows _ => ?_
      -- the rest of the survey comes out alike behind the rows of the first relation
      have hrest :=
        ih (fun r' hr' => hremoves r' (List.mem_cons_of_mem _ hr')) last (survey_congr hknows _)
      rw [removals, hknows.naming, naming_of_lookup hlookup] at hrest
      exact hrest

variable {type : EntityType} {d : Declarations}

/-- To look up the declarations executes nothing, and changes nothing about tables and schemas. -/
theorem plays_declarations (hvalid : Declarations.declare type.name type.relations = .ok d)
    (hagrees : m.relations.Agrees type d) :
    Plays (onRelations (RelationRegistry.declarations type)) m []
      (Succeeds fun declared left => d = declared ∧ m.Knows left) := by
  obtain ⟨relations, hperform, -⟩ := RelationRegistry.perform_declarations hvalid hagrees
  have hwhole : (onRelations (RelationRegistry.declarations type)).perform m =
      (.ok d, { m with relations }) := by
    rw [onRelations, Action.perform_on, hperform]
  refine .still (by rw [hwhole]) (by rw [hwhole]) ?_
  rw [hwhole]
  exact ⟨d, rfl, rfl, rfl, rfl, rfl⟩

/-- What goes with the owners: nothing at all if nothing depends on them, or else a read of the
owners and then `plays_allDependents` over the rows that it answered. -/
theorem plays_deleteAllDependents (hvalid : Declarations.declare type.name type.relations = .ok d)
    (hagrees : m.relations.Agrees type d) {conditions : Condition}
    (howners : d.dependents ≠ [] →
      ∀ row ∈ answeredOwners m.driver.script, owner.key ∈ row.columns ∨ fault)
    {targets : List Schema} {fault? : Option Error}
    (hsurvey : survey (d.dependents.map fun r => (r.target.entity, r.target.table?)) m =
      (targets, fault?)) :
    PlaysUnless fault (deleteAllDependents type owner conditions) m
      (ownersRead d.dependents owner conditions
        ++ removals m.naming d.dependents owner targets (answeredOwners m.driver.script))
      fun result _ => result = surveyed fault? := by
  refine PlaysUnless.bindOk (p := []) (.inl (plays_declarations hvalid hagrees)) ?_
  rintro _ declared ⟨rfl, hdeclared⟩ hscript
  have hremoves : ∀ r ∈ d.dependents, r.removesRows = true := fun r hr => (List.mem_filter.mp hr).2
  rw [← Declarations.dependents]
  cases hdependents : d.dependents with
  | nil =>
    rw [hdependents] at hsurvey
    cases hsurvey
    exact .inl (.pure () rfl)
  | cons r rest =>
    rw [hdependents] at hsurvey hremoves howners
    refine PlaysUnless.bindOk (p := [_]) (.inl (plays_run _ declared))
      fun answered left ⟨hanswer, hleft⟩ _ => ?_
    -- the owners are the rows of the first answer
    have hrows : answeredOwners m.driver.script = answered.rows := by
      rw [hscript] at hanswer
      rw [answeredOwners, show answer m.driver.script 0 = .ok answered from hanswer]
    rw [hrows] at howners ⊢
    have hknows := hdeclared.trans hleft
    have hall := plays_allDependents hremoves (howners (by simp)) left
      ((survey_congr hknows _).trans hsurvey)
    rwa [hknows.naming] at hall

/-- The whole of a deletion that is not refused and finds the schema of the owners: owners are
deleted only if no relation lacks a schema. -/
theorem plays_deleteRows (hvalid : Declarations.declare type.name type.relations = .ok d)
    (hagrees : m.relations.Agrees type d) {conditions : Condition} {everyRow : Bool}
    (hguard : conditions.isEmpty = false ∨ everyRow = true)
    (howners : d.dependents ≠ [] →
      ∀ row ∈ answeredOwners m.driver.script, owner.key ∈ row.columns ∨ fault)
    {targets : List Schema} {fault? : Option Error}
    (hsurvey : survey (typesToDelete type d.dependents) m = (owner :: targets, fault?)) :
    PlaysUnless fault (deleteRows type conditions everyRow) m
      ((ownersRead d.dependents owner conditions
        ++ removals m.naming d.dependents owner targets (answeredOwners m.driver.script))
        ++ if fault?.isNone then [.delete owner.table conditions] else [])
      fun result _ => match fault? with
        | some e => result = .error e
        | none => ∃ answered, result = .ok answered.affected
            ∧ answer m.driver.script (ownersRead d.dependents owner conditions
              ++ removals m.naming d.dependents owner targets
                (answeredOwners m.driver.script)).length
              = .ok answered := by
  rw [typesToDelete, survey] at hsurvey
  rcases hlookup : (schemaFor type.name type.table?).perform m with ⟨result, found⟩
  rw [hlookup] at hsurvey
  cases result with
  | error e => exact absurd hsurvey (by simp)
  | ok schema =>
    obtain ⟨howner, hfault⟩ := Prod.mk.inj hsurvey
    obtain ⟨rfl, htargets⟩ := List.cons.inj howner
    -- from the lookup on, the manager knows the schema of the owners as well
    have hrelations : found.relations = m.relations := by
      have hkept := keeps_schemaFor type.name type.table? m
      rw [hlookup] at hkept
      exact (Prod.mk.inj hkept).1
    refine PlaysUnless.bindOk (p := [])
      (.inl (Plays.ofExcept (guardConditions_eq_ok hguard _ _) m)) ?_
    rintro _ _ ⟨-, rfl⟩ -
    refine plays_of_lookup hlookup fun hscript => ?_
    have hdependents : PlaysUnless fault (deleteAllDependents type schema conditions) found _ _ :=
      plays_deleteAllDependents hvalid (hrelations ▸ hagrees) (by rwa [hscript])
        (Prod.ext htargets hfault)
    rw [hscript, naming_of_lookup hlookup] at hdependents
    refine hdependents.bind ?_ ?_
    · intro _ left hsurveyed hleft
      cases fault? with
      | some e => cases hsurveyed
      | none =>
        refine .inl ((plays_delete hguard left).mono ?_)
        rintro result _ ⟨n, hresult, ⟨answered, hanswer, rfl⟩, -⟩
        rw [hleft, Scripted.answer_drop, hscript] at hanswer
        exact ⟨answered, hresult, hanswer⟩
    · intro e left hsurveyed
      cases fault? with
      | some e' =>
        obtain rfl := Except.error.inj hsurveyed
        exact ⟨rfl, rfl⟩
      | none => cases hsurveyed

/-- A deletion whose owners have no schema executes nothing. -/
theorem plays_deleteRows_unknown {conditions : Condition} {everyRow : Bool}
    (hguard : conditions.isEmpty = false ∨ everyRow = true) {e : Error}
    (hsurvey : survey (typesToDelete type d.dependents) m = ([], some e)) :
    Plays (deleteRows type conditions everyRow) m [] fun result _ => result = .error e := by
  rw [typesToDelete, survey] at hsurvey
  rcases hlookup : (schemaFor type.name type.table?).perform m with ⟨result, found⟩
  rw [hlookup] at hsurvey
  cases result with
  | ok schema => exact absurd hsurvey (by simp)
  | error e' =>
    obtain rfl := Option.some.inj (Prod.mk.inj hsurvey).2
    refine (Plays.ofExcept (guardConditions_eq_ok hguard _ _) m).bindOk (p := []) ?_
    rintro _ _ ⟨-, rfl⟩ -
    exact plays_of_lookup_error hlookup

/-! ## Deletions

The two operations that delete, and what they do when all schemas are to be had. -/

/-- A deletion of the rows under some conditions that is not refused. -/
inductive Deletes (type : EntityType) : Action (Manager Scripted) Nat → Condition → Prop
  | some {criteria : Criteria} {conditions : Condition} (hread : criteria.read = .ok conditions)
      (hne : conditions.isEmpty = false) : Deletes type (delete type criteria) conditions
  | all : Deletes type (deleteAll type) .empty

/-- Either deletion is `deleteRows` with a guard that it passes. -/
theorem Deletes.exists_deleteRows {action : Action (Manager Scripted) Nat} {conditions : Condition}
    (h : Deletes type action conditions) :
    ∃ everyRow, (conditions.isEmpty = false ∨ everyRow = true)
      ∧ ∀ m, action.perform m = (deleteRows type conditions everyRow).perform m := by
  cases h with
  | some hread hne =>
    refine ⟨false, .inl hne, fun m => ?_⟩
    rw [delete, hread, Action.perform_bind, Action.perform_ofExcept]
  | all => exact ⟨true, .inr rfl, fun m => rfl⟩

/-- **Dependents go first, in order, and the first failure is the end.** If the schemas are to be
had and each owner has its key, a deletion means to execute: nothing but itself, if nothing depends
on its rows, or else a read of the owners, and then for each relation and each owner with a key one
statement that deletes what goes with this owner; last of all it deletes the owners. What it
executes is all of this, or what comes up to the first failure, which is its result. -/
theorem deletes_dependents_first (hvalid : Declarations.declare type.name type.relations = .ok d)
    (hagrees : m.relations.Agrees type d) {action : Action (Manager Scripted) Nat}
    {conditions : Condition} (hdeletes : Deletes type action conditions) {targets : List Schema}
    (hschemas : survey (typesToDelete type d.dependents) m = (owner :: targets, none))
    (howners : d.dependents ≠ [] → ∀ row ∈ answeredOwners m.driver.script,
      owner.key ∈ row.columns) :
    let first := ownersRead d.dependents owner conditions
      ++ removals m.naming d.dependents owner targets (answeredOwners m.driver.script)
    let promised := first ++ [.delete owner.table conditions]
    (∃ executed, (action.perform m).2.driver.log = m.driver.log ++ executed
      ∧ ((executed = promised
          ∧ (∀ i < promised.length, ∃ answered, answer m.driver.script i = .ok answered)
          ∧ ∃ answered, answer m.driver.script first.length = .ok answered
            ∧ (action.perform m).1 = .ok answered.affected)
        ∨ ∃ i e, i < promised.length
          ∧ (∀ j < i, ∃ answered, answer m.driver.script j = .ok answered)
          ∧ answer m.driver.script i = .error e ∧ executed = promised.take (i + 1)
          ∧ (action.perform m).1 = .error e))
    ∧ ∀ (r : Relation) (target : Schema) (key : Value), key.isNull = false →
        (r.removalOf m.naming owner target key).conditions.ScopedTo
          (r.foreignKey m.naming owner target) key
          (if r.kind.needsJoinTable then .empty else r.conditions) := by
  intro first promised
  refine ⟨?_, fun r target key hkey => r.removal_scopes m.naming owner target hkey⟩
  obtain ⟨everyRow, hguard, hperform⟩ := hdeletes.exists_deleteRows
  obtain ⟨hlog, hplay⟩ := (plays_deleteRows hvalid hagrees hguard
    (fun hne row hrow => .inl (howners hne row hrow)) hschemas).plays
  rw [← hperform m] at hlog hplay
  refine ⟨_, hlog, ?_⟩
  have hpromised :
    first ++ (if (none : Option Error).isNone then [.delete owner.table conditions] else []) =
    promised := rfl
  -- either all of it is played, or it ends at the first failure
  rcases Scripted.play_cases promised m.driver.script with
    ⟨hok, hcase⟩ | ⟨i, e, hi, hok, herror, hcase⟩
  · rw [hpromised, hcase] at hplay ⊢
    obtain ⟨-, answered, hresult, hanswer⟩ := hplay
    exact .inl ⟨rfl, hok, answered, hanswer, hresult⟩
  · rw [hpromised, hcase] at hplay ⊢
    exact .inr ⟨i, e, hi, hok, herror, rfl, hplay⟩

/-- Posts whose comments go with them, and then the links to their tags. -/
def discussedPost : EntityType :=
  { Blog.post "" with relations := [Blog.leadsTo .manyToOne "author" (Blog.author ""),
      Blog.dependent (Blog.leadsTo .oneToMany "comments" (Blog.comment "")),
      Blog.dependent (Blog.leadsTo .manyToMany "tags" (Blog.tag ""))] }

/-- The manager of a scripted driver that describes some tables, each with a key. -/
def onTables (tables : List String) (script : List (Except Error ResultSet)) :
    Manager Scripted where
  driver :=
    { tables := tables.map fun name =>
      ⟨name, [Column.key { name := "id", type := "INTEGER" }]⟩, script }

/-- Two posts, between which stands a row without a key. -/
def twoPosts : ResultSet where
  rows := [⟨[("id", .int32 1)]⟩, ⟨[("id", .null)]⟩, ⟨[("id", .int32 2)]⟩]

/-- A failure of the driver at one of the statements. -/
def deadlock : Error := .driver "deadlock"

/-- Each row of `twoPosts` has the key column. -/
theorem key_mem_twoPosts {row : Row} (h : row ∈ twoPosts.rows) : "id" ∈ row.columns := by
  simp only [twoPosts, List.mem_cons, List.not_mem_nil, or_false] at h
  rcases h with rfl | rfl | rfl <;> simp [Row.columns]

/-- A manager to which nothing was said yet knows no other declarations of any type. -/
theorem agrees_onTables (tables : List String) (script : List (Except Error ResultSet))
    (type : EntityType)
    (d : Declarations) : (onTables tables script).relations.Agrees type d :=
  fun known hknown => absurd hknown (by simp [onTables, Dict.get?, Dict.empty])

/-- A table of the scripted driver as the schema of a type. -/
def keyed (entity table : String) : Schema :=
  ⟨entity, table, [Column.key { name := "id", type := "INTEGER" }], "id"⟩

/-- The third answer is a failure, so the second comment is the last thing that is deleted. -/
theorem deletes_dependents_first_discussedPost :
    let m := onTables ["posts", "comments", "tags"] [.ok twoPosts, .ok {}, .error deadlock]
    let action := delete discussedPost (.condition (.equals "author_id" (.int32 7)))
    (action.perform m).2.driver.log =
        [.select "posts" ((Query.ofTable "posts").withConditions (.equals "author_id" (.int32 7))),
          .delete "comments" (.equals "post_id" (.int32 1)),
          .delete "comments" (.equals "post_id" (.int32 2))]
      ∧ (action.perform m).1 = .error deadlock := by
  intro m action
  have hagrees : m.relations.Agrees discussedPost ⟨"Post", discussedPost.relations⟩ :=
    agrees_onTables _ _ _ _
  have hdeletes : Deletes discussedPost action (.equals "author_id" (.int32 7)) := .some rfl rfl
  have hschemas : survey (typesToDelete discussedPost
      (Declarations.mk "Post" discussedPost.relations).dependents) m =
        ([keyed "Post" "posts", keyed "Comment" "comments", keyed "Tag" "tags"], none) := by
    decide +kernel
  obtain ⟨⟨executed, hlog, hcase⟩, -⟩ := deletes_dependents_first rfl hagrees hdeletes hschemas
    fun _ _ hrow => key_mem_twoPosts hrow
  rcases hcase with ⟨-, hok, -⟩ | ⟨i, e, hi, hok, herror, hexecuted, hresult⟩
  · obtain ⟨answered, hanswer⟩ := hok 2 (by decide +kernel)
    cases hanswer
  · -- the third answer is the first failure
    have hthird : i = 2 := by
      match i, herror with
      | 2, _ => rfl
      | i + 3, _ =>
        obtain ⟨answered, hanswer⟩ := hok 2 (by omega)
        cases hanswer
    subst hthird
    obtain rfl := Except.error.inj herror
    exact ⟨by rw [hlog, hexecuted]; rfl, hresult⟩

/-! ## Missing schemas

What they do when some schema is not to be had. The schemas of the targets are looked up between the
statements, so by then something may be gone. -/

/-- **What is gone when a schema is missing.** Suppose that no statement fails, and a deletion ends
in an error. If the owners have no schema, nothing was executed. Otherwise some relation leads to a
type without a schema: the owners were read and are still there, but what depends on them by the
relations before this one is deleted. -/
theorem missing_schema_stops_halfway
    (hvalid : Declarations.declare type.name type.relations = .ok d)
    (hagrees : m.relations.Agrees type d) {action : Action (Manager Scripted) Nat}
    {conditions : Condition} (hdeletes : Deletes type action conditions)
    (hanswers : ∀ i, ∃ answered, answer m.driver.script i = .ok answered)
    (howners : d.dependents ≠ [] → ∀ owner ∈ (survey (typesToDelete type d.dependents) m).1.head?,
      ∀ row ∈ answeredOwners m.driver.script, owner.key ∈ row.columns)
    {e : Error} (hfails : (action.perform m).1 = .error e) :
    (survey (typesToDelete type d.dependents) m = ([], some e)
      ∧ (action.perform m).2.driver.log = m.driver.log)
    ∨ ∃ owner targets, survey (typesToDelete type d.dependents) m = (owner :: targets, some e)
      ∧ targets.length < d.dependents.length
      ∧ (action.perform m).2.driver.log = m.driver.log ++ ownersRead d.dependents owner conditions
          ++ removals m.naming d.dependents owner targets (answeredOwners m.driver.script) := by
  obtain ⟨everyRow, hguard, hperform⟩ := hdeletes.exists_deleteRows
  rw [hperform m] at hfails ⊢
  -- without a failing answer, whatever is promised is played to its end
  have hplayed : ∀ promised, play promised m.driver.script = (promised, none) := by
    intro promised
    rcases Scripted.play_cases promised m.driver.script with ⟨-, hcase⟩ | ⟨i, e, -, -, herror, -⟩
    · exact hcase
    · obtain ⟨answered, hanswer⟩ := hanswers i
      rw [hanswer] at herror
      cases herror
  rcases hsurvey : survey (typesToDelete type d.dependents) m with ⟨schemas, fault?⟩
  rw [hsurvey] at howners
  cases schemas with
  | nil =>
    cases fault? with
    | none => exact absurd (length_survey hsurvey) (by simp [typesToDelete])
    | some e' =>
      obtain ⟨hlog, hplay⟩ := plays_deleteRows_unknown hguard hsurvey
      rw [hplayed] at hlog hplay
      obtain rfl := Except.error.inj (hfails.symm.trans hplay.2)
      exact .inl ⟨rfl, by rw [hlog, List.append_nil]⟩
  | cons owner targets =>
    obtain ⟨hlog, hplay⟩ := (plays_deleteRows hvalid hagrees hguard
      (fun hne row hrow => .inl (howners hne owner rfl row hrow)) hsurvey).plays
    rw [hplayed] at hlog hplay
    cases fault? with
    | none =>
      obtain ⟨-, answered, hresult, -⟩ := hplay
      rw [hfails] at hresult
      cases hresult
    | some e' =>
      obtain rfl := Except.error.inj (hfails.symm.trans hplay.2)
      refine .inr ⟨owner, targets, rfl, ?_, ?_⟩
      · simpa [typesToDelete] using length_survey hsurvey
      · rw [hlog, List.append_assoc]
        simp

/-- Behind the posts, every statement succeeds without rows. -/
theorem exists_answer_twoPosts (i : Nat) : ∃ answered, answer [.ok twoPosts] i = .ok answered := by
  cases i with
  | zero => exact ⟨twoPosts, rfl⟩
  | succ i => exact ⟨{}, rfl⟩

/-- Comments are gone although there is no table of tags, which comes to light only when the links
to tags are about to be deleted. -/
theorem comments_gone_without_tags :
    let m := onTables ["posts", "comments"] [.ok twoPosts]
    let action := delete discussedPost (.condition (.equals "author_id" (.int32 7)))
    (∀ i, ∃ answered, answer m.driver.script i = .ok answered)
      ∧ (action.perform m).1 = .error (.missingTable "Tag" "tags")
      ∧ (action.perform m).2.driver.log.map Statement.text =
        ["SELECT * FROM posts WHERE author_id = ?", "DELETE FROM comments WHERE post_id = ?",
          "DELETE FROM comments WHERE post_id = ?"] :=
  ⟨exists_answer_twoPosts, by decide +kernel, by decide +kernel⟩

/-- There is no table of comments either, so nothing is gone: the posts were read, and that is all.
-/
theorem missing_schema_stops_halfway_discussedPost :
    let m := onTables ["posts"] [.ok twoPosts]
    let action := deleteAll discussedPost
    (action.perform m).1 = .error (.missingTable "Comment" "comments")
      ∧ (action.perform m).2.driver.log =
        [.select "posts" ((Query.ofTable "posts").withConditions .empty)] := by
  intro m action
  have hagrees : m.relations.Agrees discussedPost ⟨"Post", discussedPost.relations⟩ :=
    agrees_onTables _ _ _ _
  -- the owners have a schema, and the first of their dependents has none
  have hsurvey : survey (typesToDelete discussedPost
      (Declarations.mk "Post" discussedPost.relations).dependents) m =
        ([keyed "Post" "posts"], some (.missingTable "Comment" "comments")) := by
    decide +kernel
  have hfails : (action.perform m).1 = .error (.missingTable "Comment" "comments") := by
    decide +kernel
  refine ⟨hfails, ?_⟩
  rcases missing_schema_stops_halfway rfl hagrees .all exists_answer_twoPosts
      (fun _ owner howner row hrow => by
      rw [hsurvey] at howner
      obtain rfl := Option.some.inj howner
      exact key_mem_twoPosts hrow) hfails with
    ⟨hnothing, -⟩ | ⟨owner, targets, hfound, -, hlog⟩
  · -- the schema of the owners was found, so it is not this case
    rw [hsurvey] at hnothing
    exact absurd hnothing (by simp)
  · rw [hsurvey] at hfound
    obtain ⟨rfl, rfl⟩ := List.cons.inj (Prod.mk.inj hfound).1
    rw [hlog]
    rfl

end Manager

end EntityMapper
