import EntityMapper.Proofs.Condition.Conjunction
import EntityMapper.Relation.Plan
import EntityMapper.Statement

/-!
# The scope of a relation

A relation of an owner is read by a single query, and rows are deleted with an owner by a single
condition. Both compare one column with one value of the owner, and both add what the declaration
asks for besides. The main statements say that nothing which is added can widen that scope: the
targets of other owners are neither read (`plan_scopes`) nor deleted (`removal_scopes`).

## Structure

* `ScopedTo` — a condition that asks for a value in a column, and for another condition besides; as
  a tree, as a text and by its bindings.
* `scopedTo_andAlso` — this is what `andAlso` makes of a comparison and a condition.
* `Scopes` — the same of a query, with the text of its select in full (`text_targets`).
* `plan_scopes` — which of the three outcomes of a plan occurs, and that the query is scoped.
-/

namespace EntityMapper

open Reading

namespace Condition

/-! ## Scoped conditions

`ScopedTo` says that a condition is one comparison together with other conditions. It says so three
times, as each reader of it needs it: of the condition, of the predicate that is read as SQL, and of
the values that are bound. -/

/-- A comparison with a value that is not null is no more than that comparison. With a null it would
be a test for null. -/
theorem truth_equals {value : Value} (h : value.isNull = false) (row : Atom → Truth)
    (column : String) :
    (equals column value).truth row = row (.compares column .equal (some value)) := by
  simp [equals, truth, comparisonFormula, Formula.truth, h]

theorem bindings_equals {value : Value} (h : value.isNull = false) (column : String) :
    (equals column value).predicate.bindings = [value] := by
  simp [equals, predicate, fragment?, Fragment.comparison, h, Sql.bindings, Sql.Piece.bindings]

/-- The predicate of a condition, read as SQL, says that a comparison holds and that a row passes
another condition. -/
def AsksFor (c : Condition) (scope : Atom) (besides : Condition) : Prop :=
  ∃ g, Formula.ofText c.predicate.text.toList c.predicate.holders = some g
    ∧ ∀ row, g.truth row = (row scope).and (besides.restriction row)

/-- A condition that rows with a given value in a column pass, if they pass another condition
besides. -/
structure ScopedTo (c : Condition) (column : String) (key : Value)
    (besides : Condition) : Prop where
  ne : c.isEmpty = false
  /-- Whatever the column is called, the condition asks for the value. -/
  asks : ∀ row,
    c.truth row = (row (.compares column .equal (some key))).and (besides.restriction row)
  /-- The predicate, read as SQL, asks for it as well. -/
  reads : isColumn column = true → besides.Readable →
    c.AsksFor (.compares column .equal (some key)) besides
  bindings : c.predicate.bindings = key :: besides.predicate.bindings
  /-- Each placeholder stands for the value that is bound in its place. -/
  holders : besides.RawsBound → c.predicate.holders = (key :: besides.predicate.bindings).map some

/-- All that the scope of a relation comes to is here: a comparison and other conditions are put
together by `andAlso`. Each field is a law of `andAlso` for the case of one comparison. -/
theorem scopedTo_andAlso {key : Value} (hkey : key.isNull = false) (column : String)
    (besides : Condition) :
    ((equals column key).andAlso besides).ScopedTo column key besides where
  ne := isEmpty_andAlso_left rfl besides
  asks row := by
    rw [← restriction_of_ne (isEmpty_andAlso_left rfl _), restriction_andAlso,
      restriction_of_ne rfl, truth_equals hkey]
  reads hcolumn hreadable := by
    -- conditions are read as SQL by the law of `andAlso` for readable conditions
    obtain ⟨g, hread, htruth⟩ := exists_ofText_andAlso (a := equals column key) rfl
      (readable_equals hcolumn key) hreadable
    exact ⟨g, hread, fun row => by rw [htruth row, truth_equals hkey]⟩
  bindings := by rw [bindings_andAlso, bindings_equals hkey, List.singleton_append]
  holders hbound := by
    rw [holders_predicate ((rawsBound_equals column key).andAlso hbound), bindings_andAlso,
      bindings_equals hkey, List.singleton_append]

end Condition

namespace Relation

variable (r : Relation) (naming : Naming) (owner target : Schema)

/-! ## Queries of targets

All directives make their query in the same way and differ in three things: the column that is
compared, whether there is a join, and whether there is a bound. `targets_eq` has the query in that
form, so that the cases by the kind of the relation are made once. -/

/-- The column that is compared with the value that relates. -/
def scopeColumn : String :=
  match r.kind with
  | .manyToOne => target.key
  | .manyToMany => s!"{r.joinTable naming owner target}.{r.foreignKey naming owner target}"
  | _ => r.foreignKey naming owner target

/-- What targets are read from, and which columns of it: those of the target's table, to which the
join table is joined if the relation goes through one. -/
def targetsSource : String :=
  let links := r.joinTable naming owner target
  if r.kind.needsJoinTable then
    s!"{target.table}.* FROM {target.table} INNER JOIN {links} ON "
      ++ s!"{links}.{r.associationKey naming target} = {target.table}.{target.key}"
  else s!"* FROM {target.table}"

/-- How many targets are read. -/
def targetsBound : String := if r.kind.isCollection then "" else " LIMIT 1"

/-- A query that reads the targets that belong to a value, and no other rows. -/
structure Scopes (key : Value) (q : Query) : Prop where
  statement : Statement.ofSelect q = .ok (.select target.table q)
  /-- All that stands around the predicate. -/
  text : (Statement.select target.table q).text =
    s!"SELECT {r.targetsSource naming owner target} WHERE "
      ++ s!"{q.conditions.predicate.text}{r.targetsBound}"
  bindings : (Statement.select target.table q).bindings = key :: r.conditions.predicate.bindings
  conditions : q.conditions.ScopedTo (r.scopeColumn naming owner target) key r.conditions

/-- The query in full: all that it has beside its conditions is the join and the bound. -/
theorem targets_eq (key : Value) :
    r.targets naming owner target key =
      { table? := some target.table
        columns := if r.kind.needsJoinTable then [s!"{target.table}.*"] else []
        conditions :=
          (Condition.equals (r.scopeColumn naming owner target) key).andAlso r.conditions
        joins :=
          if r.kind.needsJoinTable then
            [⟨.inner, r.joinTable naming owner target,
              [(s!"{r.joinTable naming owner target}.{r.associationKey naming target}",
                s!"{target.table}.{target.key}")]⟩]
          else []
        limit? := if r.kind.isCollection then none else some 1 } := by
  unfold targets scopeColumn
  cases r.kind <;> rfl

/-- The statement of the query around its predicate, which is not empty. -/
theorem sql_targets (key : Value) :
    (Statement.select target.table (r.targets naming owner target key)).sql =
      .text "SELECT " :: Statement.selectList (r.targets naming owner target key)
        ++ .text s!" FROM {target.table}"
          :: (r.targets naming owner target key).joins.flatMap Statement.joinClause
        ++ .text " WHERE " :: (r.targets naming owner target key).conditions.predicate
        ++ Statement.boundClause "LIMIT" (r.targets naming owner target key).limit? := by
  have hne :=
    Condition.isEmpty_andAlso_left (a := .equals (r.scopeColumn naming owner target) key) rfl
    r.conditions
  have hhaving : Condition.empty.clause "HAVING" = [] := rfl
  rw [targets_eq, Statement.sql, Statement.sourceClauses, Statement.windowClauses,
    Condition.clause_of_ne hne, hhaving]
  simp [Statement.listClause, Statement.boundClause, toString]

/-- The text of the query, of which only the predicate depends on the declaration's conditions. Each
of the four shapes, with a join or without and for one target or many, is written out and compared.
-/
theorem text_targets (key : Value) :
    (Statement.select target.table (r.targets naming owner target key)).text =
      s!"SELECT {r.targetsSource naming owner target} WHERE "
        ++ s!"{(r.targets naming owner target key).conditions.predicate.text}{r.targetsBound}" := by
  have hone : Nat.toDigits 10 1 = ['1'] := rfl
  rw [Statement.text, sql_targets, targets_eq, targetsSource, targetsBound]
  -- the predicate is the same on both sides, whatever it is
  generalize Condition.andAlso _ _ = conditions
  apply String.toList_inj.mp
  rw [Sql.text, String.toList_ofList]
  cases r.kind.needsJoinTable <;> cases r.kind.isCollection <;>
    simp [toString, JoinKind.token, hone, Statement.selectList, Statement.joinClause,
      Statement.boundClause, Sql.plain, Sql.text, Sql.chars, Sql.Piece.chars]

/-- Joins and bounds bind nothing, so the query binds what its predicate binds. -/
theorem bindings_targets (key : Value) :
    (Statement.select target.table (r.targets naming owner target key)).bindings =
      (r.targets naming owner target key).conditions.predicate.bindings := by
  rw [Statement.bindings, sql_targets, targets_eq]
  cases r.kind.needsJoinTable <;> cases r.kind.isCollection <;>
    simp [Statement.selectList, Statement.joinClause, Statement.boundClause, Sql.plain,
      Sql.bindings, Sql.Piece.bindings]

/-- The query of a value that is not null reads the targets that belong to it. -/
theorem scopes_targets {key : Value} (hkey : key.isNull = false) :
    r.Scopes naming owner target key (r.targets naming owner target key) := by
  have hconditions : (r.targets naming owner target key).conditions.ScopedTo
      (r.scopeColumn naming owner target) key r.conditions := by
    rw [targets_eq]
    exact Condition.scopedTo_andAlso hkey _ _
  exact ⟨by rw [targets_eq]; rfl, r.text_targets naming owner target key,
    by rw [bindings_targets, hconditions.bindings], hconditions⟩

/-! ## Plans

A plan first looks for the value that relates. What can come of that is told apart by whether the
owner has the column and whether there is a null in it. -/

/-- **Plans are exact, and scoped to their owner.** There is no telling what an owner is related to
just when it lacks the column that refers, and nothing is related to it just when that column is
null. In any other case a query reads just the targets that belong to the owner's value. -/
theorem plan_scopes (instanceOf : Json) :
    (∀ e, r.plan naming owner target instanceOf = .error e ↔
      instanceOf.get? (r.relatingColumn naming owner target) = none ∧
        e = .missingSchema owner.entity
          s!"instance has no value for key column '{r.relatingColumn naming owner target}'")
    ∧ (r.plan naming owner target instanceOf = .ok none ↔
      instanceOf.get? (r.relatingColumn naming owner target) = some .null)
    ∧ ∀ json, instanceOf.get? (r.relatingColumn naming owner target) = some json → json ≠ .null →
      ∃ q, r.plan naming owner target instanceOf = .ok (some q)
        ∧ r.Scopes naming owner target (.ofJson json) q := by
  cases hget : instanceOf.get? (r.relatingColumn naming owner target) with
  | none =>
    -- without the column there is no value to go by
    have hplan : r.plan naming owner target instanceOf = .error (.missingSchema owner.entity
        s!"instance has no value for key column '{r.relatingColumn naming owner target}'") := by
      rw [plan, ownerValue, hget]
      rfl
    rw [hplan]
    refine ⟨fun e => ⟨fun h => ⟨rfl, (Except.error.inj h).symm⟩, fun h => by rw [h.2]⟩,
      by simp, by simp⟩
  | some json =>
    have hplan : r.plan naming owner target instanceOf =
        .ok (if (Value.ofJson json).isNull then none
          else some (r.targets naming owner target (.ofJson json))) := by
      rw [plan, ownerValue, hget]
      rfl
    rw [hplan]
    -- a value is null just if the document has a null there
    by_cases hnull : json = .null
    · subst hnull
      refine ⟨by simp, by simp [Value.ofJson, Value.isNull], fun json' h hne => ?_⟩
      exact absurd (Option.some.inj h).symm hne
    · have hkey := Value.isNull_ofJson hnull
      refine ⟨by simp, by simp [hkey, hnull], fun json' h _ => ?_⟩
      obtain rfl := Option.some.inj h
      exact ⟨_, by simp [hkey], r.scopes_targets naming owner target hkey⟩

/-- The comments on an article that are approved, or pinned to it. -/
def approvedComments : Relation where
  name := "comments"
  kind := .oneToMany
  target := { entity := "Comment", typeName := "Comment" }
  foreignKey? := some "post_uuid"
  conditions := .raw "approved = 1 OR pinned = ?" [.bool true]

/-- Articles, which have a key of text. -/
def articles : Schema := ⟨"BlogPost", "blog_posts", [], "uuid"⟩

def comments : Schema := ⟨"Comment", "comments", [], "id"⟩

/-- An `OR` in what the declaration asks for besides stays inside its parentheses. -/
theorem plan_scopes_approvedComments :
    ∃ q, approvedComments.plan .english articles comments (.obj [("uuid", .str "a1")]) =
      .ok (some q)
      ∧ (Statement.select "comments" q).text =
        "SELECT * FROM comments WHERE post_uuid = ? AND (approved = 1 OR pinned = ?)"
      ∧ (Statement.select "comments" q).bindings = [.text "a1", .bool true]
      ∧ q.conditions.AsksFor (.compares "post_uuid" .equal (some (.text "a1")))
        approvedComments.conditions := by
  -- the only leaf is the ready-made piece, which is one expression
  have hreadable : approvedComments.conditions.Readable := by
    constructor
    · intro field comparison operand hleaf
      cases List.mem_singleton.mp hleaf
    · intro sql values hleaf _
      cases List.mem_singleton.mp hleaf
      rfl
  obtain ⟨q, hplan, hscopes⟩ := (plan_scopes approvedComments .english articles comments
    (.obj [("uuid", .str "a1")])).2.2 (.str "a1") rfl (by simp)
  refine ⟨q, hplan, ?_, hscopes.bindings, hscopes.conditions.reads rfl hreadable⟩
  obtain rfl := Option.some.inj (Except.ok.inj hplan)
  rfl

/-- Names are written as they are given. A column that is more than a column takes the predicate
apart, both as the foreign key and under a condition: the key of the owner then guards a part of it
only. -/
def looseKey : Relation where
  name := "labels"
  kind := .oneToMany
  target := { entity := "Tag", typeName := "Tag" }
  foreignKey? := some "first_id OR second_id"

def looseCondition : Relation where
  name := "labels"
  kind := .oneToMany
  target := { entity := "Tag", typeName := "Tag" }
  conditions := .equals "open OR pinned" (.bool true)

/-- Posts and tags, both with a key called `id`. -/
def posts : Schema := ⟨"Post", "posts", [], "id"⟩

def tags : Schema := ⟨"Tag", "tags", [], "id"⟩

/-- In both cases there is a row that passes the predicate without having the owner's key. -/
theorem plan_loose_columns :
    (looseKey.validate "Post" = .ok () ∧
      ∃ q, looseKey.plan .english posts tags (.obj [("id", .ofInt 5)]) = .ok (some q)
        ∧ ¬ q.conditions.AsksFor (.compares "first_id OR second_id" .equal (some (.int32 5)))
          looseKey.conditions)
    ∧ looseCondition.validate "Post" = .ok () ∧
      ∃ q, looseCondition.plan .english posts tags (.obj [("id", .ofInt 5)]) = .ok (some q)
        ∧ ¬ q.conditions.AsksFor (.compares "post_id" .equal (some (.int32 5)))
          looseCondition.conditions := by
  -- a row of which nothing is known but one comparison, to which the owner's key has nothing to say
  let row (column : String) : Atom → Truth := fun
    | .compares column' _ _ => if column' = column then .yes else .no
    | _ => .no
  refine ⟨⟨rfl, _, rfl, ?_⟩, rfl, _, rfl, ?_⟩
  · -- the reader reads the text, but what it reads is true of a row that it should not be true of
    rintro ⟨g, hg, htruth⟩
    obtain rfl := Option.some.inj hg
    exact absurd (htruth (row "second_id")) (by decide)
  · rintro ⟨g, hg, htruth⟩
    obtain rfl := Option.some.inj hg
    exact absurd (htruth (row "pinned")) (by decide)

/-! ## Deleting with the owner

The same comparison decides what goes with an owner. -/

/-- The rows that go with an owner are among those that refer to it: what the declaration asks for
besides can only spare rows of the owner. Links go without regard to it. -/
theorem removal_scopes {key : Value} (hkey : key.isNull = false) :
    (r.removalOf naming owner target key).conditions.ScopedTo (r.foreignKey naming owner target) key
      (if r.kind.needsJoinTable then .empty else r.conditions) := by
  unfold removalOf
  split
  · exact Condition.scopedTo_andAlso hkey (r.foreignKey naming owner target) .empty
  · exact Condition.scopedTo_andAlso hkey (r.foreignKey naming owner target) r.conditions

end Relation

end EntityMapper
