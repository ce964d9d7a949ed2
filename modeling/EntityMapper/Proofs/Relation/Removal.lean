import EntityMapper.Proofs.Relation.Scope
import EntityMapper.Proofs.Statement.Restriction

/-!
# What goes with an owner

A relation is followed in two ways: to read its targets, and to delete with the owner what hangs on
it. The query of the one and the removal of the other are made separately, from the same
declaration. The main statement compares them, whatever the declaration leaves open and whatever the
owner lacks: where targets refer to their owner, just those go that the query asks for; where they
are linked with it, just the links go that the query goes through, and no target; and what owners
refer to stays.

## Structure

* `Abreast` — two attempts side by side. It is what makes the comparison complete: there is no
  outcome of the one without one of the other.
* `TakesTargets`, `TakesLinks` — what the removal has to do with the query, for the two kinds of
  relations that remove anything.
* `abreast_plan_removal` — both attempts take the same value of the owner first.
* `takesTargets_removalOf`, `takesLinks_removalOf` — what they make of that value.
-/

namespace EntityMapper

open Reading

/-- Two attempts that go side by side: both fail for the same reason, both find nothing, or what the
one finds is related to what the other finds. -/
inductive Abreast {α β : Type} (related : α → β → Prop) :
    Except Error (Option α) → Except Error (Option β) → Prop
  | failed (e : Error) : Abreast related (.error e) (.error e)
  | nothing : Abreast related (.ok none) (.ok none)
  | found {a : α} {b : β} (h : related a b) : Abreast related (.ok (some a)) (.ok (some b))

namespace Abreast

variable {α β : Type} {related : α → β → Prop}

/-- What comes with something found on the left is something found on the right, related to it. -/
theorem exists_of_found {x : Except Error (Option α)} {y : Except Error (Option β)}
    (h : Abreast related x y) {a : α} (hx : x = .ok (some a)) :
    ∃ b, y = .ok (some b) ∧ related a b := by
  cases h with
  | failed e => exact absurd hx (by simp)
  | nothing => exact absurd hx (by simp)
  | found hrelated =>
    cases hx
    exact ⟨_, rfl, hrelated⟩

/-- Attempts that hang on one value find nothing if it is null. -/
theorem of_value (value? : Except Error Value) {a : Value → α} {b : Value → β}
    (h : ∀ value, value? = .ok value → value.isNull = false → related (a value) (b value)) :
    Abreast related (do let value ← value?; return if value.isNull then none else some (a value))
      (do let value ← value?; return if value.isNull then none else some (b value)) := by
  cases value? with
  | error e => exact .failed e
  | ok value =>
    -- both attempts test the same value
    show Abreast related (.ok (if value.isNull then none else some (a value)))
      (.ok (if value.isNull then none else some (b value)))
    cases hnull : value.isNull with
    | true => exact .nothing
    | false => exact .found (h value rfl hnull)

end Abreast

namespace Relation

/-! ## Rows

Query and removal are compared by the rows that they are about, since what a query adds for reading,
its columns and its bound, has nothing to do with what goes. A row is known by the truth of the
comparisons on it. -/

/-- A row of a table goes with the owner. -/
def Removal.Takes (d : Removal) (table : String) (row : Atom → Truth) : Prop :=
  table = d.table ∧ d.conditions.restriction row = .yes

/-- A row of a table is among those that a query asks for. -/
def Reaches (q : Query) (table : String) (row : Atom → Truth) : Prop :=
  q.table? = some table ∧ q.conditions.restriction row = .yes

/-- The columns of a table have the same values, whether a row stands alone or is joined to another.
-/
def JoinedFrom (table : String) (joined link : Atom → Truth) : Prop :=
  ∀ column comparison value?,
    joined (.compares s!"{table}.{column}" comparison value?) =
      link (.compares column comparison value?)

/-! ## Targets and links

There are two kinds of relations that delete something. `TakesTargets` and `TakesLinks` say for each
what the removal has in common with the query, and in what it differs. -/

/-- A removal of the targets that a query asks for. -/
structure TakesTargets (q : Query) (d : Removal) : Prop where
  table : q.table? = some d.table
  conditions : d.conditions = q.conditions
  rows : ∀ table row, d.Takes table row ↔ Reaches q table row

/-- A removal of the links that a query goes through to reach its targets. -/
structure TakesLinks (target : Schema) (besides : Condition) (column : String)
    (key : Value) (q : Query)
    (d : Removal) : Prop where
  table : q.table? = some target.table
  joins : ∃ columns, q.joins = [⟨.inner, d.table, [columns]⟩]
  /-- The query has the table before the column, and what is asked for besides behind the
  comparison. -/
  asks : q.conditions = (Condition.equals s!"{d.table}.{column}" key).andAlso besides
  conditions : d.conditions = .equals column key
  text : (Statement.delete d.table d.conditions).text = s!"DELETE FROM {d.table} WHERE {column} = ?"
  bindings : (Statement.delete d.table d.conditions).bindings = [key]
  /-- Each link of the owner goes, and nothing else. -/
  rows : ∀ table row, d.Takes table row ↔ table = d.table
    ∧ row (.compares column .equal (some key)) = .yes
  /-- No link is left behind by which the query reaches a target. -/
  reached : ∀ joined link, JoinedFrom d.table joined link →
    Reaches q target.table joined → d.Takes d.table link
  spares : target.table ≠ d.table → ∀ row, ¬ d.Takes target.table row

/-- A removal by the value of a column takes the rows of its table that have the value. -/
theorem takes_equals_iff {table column : String} {key : Value} (hkey : key.isNull = false)
    (table' : String) (row : Atom → Truth) :
    (Removal.mk table (.equals column key)).Takes table' row ↔
      table' = table ∧ row (.compares column .equal (some key)) = .yes := by
  unfold Removal.Takes
  rw [Condition.restriction_of_ne rfl, Condition.truth_equals hkey]

theorem text_delete_equals {key : Value} (hkey : key.isNull = false) (table column : String) :
    (Statement.delete table (.equals column key)).text =
      s!"DELETE FROM {table} WHERE {column} = ?" := by
  have hpredicate : (Condition.equals column key).predicate.text = s!"{column} = ?" := by
    simp [Condition.equals, Condition.predicate, Condition.fragment?, Fragment.comparison, hkey,
      Comparison.token, Sql.text, Sql.chars, Sql.Piece.chars, toString]
  rw [Statement.text_delete, Condition.clauseText, hpredicate]
  simp [Condition.equals, Condition.isEmpty, ← String.toList_inj, toString]

theorem bindings_delete_equals {key : Value} (hkey : key.isNull = false) (table column : String) :
    (Statement.delete table (.equals column key)).bindings = [key] := by
  have hclause := Condition.clause_of_ne (c := .equals column key) rfl "WHERE"
  rw [Statement.bindings, Statement.sql, hclause]
  exact Condition.bindings_equals hkey column

variable (r : Relation) (naming : Naming) (owner target : Schema)

/-- Where targets refer to the owner, `targets` and `removalOf` compare the same column and add the
same conditions, and only the columns and the bound of the query differ. -/
theorem takesTargets_removalOf (hkind : r.kind = .oneToOne ∨ r.kind = .oneToMany) (key : Value) :
    TakesTargets (r.targets naming owner target key) (r.removalOf naming owner target key) := by
  have hlinks : r.kind.needsJoinTable = false := by
    rcases hkind with hkind | hkind <;> rw [hkind] <;> rfl
  have hcolumn : r.scopeColumn naming owner target = r.foreignKey naming owner target := by
    unfold scopeColumn
    rcases hkind with hkind | hkind <;> rw [hkind]
  rw [targets_eq, removalOf, hlinks, hcolumn]
  refine ⟨rfl, rfl, fun table row => ?_⟩
  -- a query has a table or none, and this one has that of the targets
  have htable : table = target.table ↔ some target.table = some table := by
    rw [Option.some_inj, eq_comm]
  exact and_congr_left fun _ => htable

/-- Where there are links, the query names the table of the links before the column, because it
joins two tables, and the removal names the column alone. A row of links that is joined has the same
values, so each link through which the query reaches a target is one that goes. -/
theorem takesLinks_removalOf (hkind : r.kind = .manyToMany) {key : Value}
    (hkey : key.isNull = false) :
    TakesLinks target r.conditions (r.foreignKey naming owner target) key
      (r.targets naming owner target key) (r.removalOf naming owner target key) := by
  have hlinks : r.kind.needsJoinTable = true := by rw [hkind]; rfl
  have hcolumn : r.scopeColumn naming owner target =
      s!"{r.joinTable naming owner target}.{r.foreignKey naming owner target}" := by
    unfold scopeColumn
    rw [hkind]
  have hremoval : r.removalOf naming owner target key =
      ⟨r.joinTable naming owner target, .equals (r.foreignKey naming owner target) key⟩ := by
    rw [removalOf, hlinks]
    rfl
  rw [hremoval, targets_eq, hlinks, hcolumn]
  refine ⟨rfl, ⟨_, rfl⟩, rfl, rfl, text_delete_equals hkey _ _, bindings_delete_equals hkey _ _,
    takes_equals_iff hkey, ?_, ?_⟩
  · intro joined link hjoined hreached
    -- the query asks for the owner's key in the very column of the link
    have hpasses := hreached.2
    rw [Condition.restriction_of_ne (Condition.isEmpty_andAlso_left rfl _),
      (Condition.scopedTo_andAlso hkey _ _).asks, hjoined] at hpasses
    apply (takes_equals_iff hkey _ _).mpr
    exact ⟨rfl, (Truth.and_eq_yes.mp hpasses).1⟩
  · intro hne row htakes
    exact hne htakes.1

/-- Where the owner's key is what relates, query and removal hang on the same value. -/
theorem abreast_plan_removal {related : Query → Removal → Prop} (hdependent : r.isDependent = true)
    (hkind : r.kind ≠ .manyToOne) (instanceOf : Json)
    (h : ∀ key, ownerValue owner instanceOf owner.key = .ok key → key.isNull = false →
      related (r.targets naming owner target key) (r.removalOf naming owner target key)) :
    Abreast related (r.plan naming owner target instanceOf)
      (r.removal naming owner target instanceOf) := by
  have hremoves : r.removesRows = true := by simp [removesRows, hdependent, hkind]
  have hcolumn : r.relatingColumn naming owner target = owner.key := by
    simp [relatingColumn, RelationKind.keyOnOwner, hkind]
  unfold plan removal
  rw [if_pos hremoves, hcolumn]
  exact .of_value _ h

/-- **What is deleted with an owner is what it is related to.** Where the targets refer to the
owner, they are deleted just when they can be read, and by the condition by which they are read.
Where they are linked with it, all of its links are deleted, whatever the targets have to fulfil
besides, and none of the targets. What owners refer to stays. -/
theorem removal_takes_what_plan_reaches (hdependent : r.isDependent = true) (instanceOf : Json) :
    (r.kind = .oneToOne ∨ r.kind = .oneToMany →
      Abreast TakesTargets (r.plan naming owner target instanceOf)
        (r.removal naming owner target instanceOf))
    ∧ (r.kind = .manyToMany →
      Abreast (fun q d => ∃ key, ownerValue owner instanceOf owner.key = .ok key
        ∧ key.isNull = false
          ∧ TakesLinks target r.conditions (r.foreignKey naming owner target) key q d)
        (r.plan naming owner target instanceOf) (r.removal naming owner target instanceOf))
    ∧ (r.kind = .manyToOne → r.removal naming owner target instanceOf = .ok none) := by
  refine ⟨fun hkind => ?_, fun hkind => ?_, fun hkind => ?_⟩
  · -- the owner key relates, so both hang on it
    apply r.abreast_plan_removal naming owner target hdependent
    · rcases hkind with hkind | hkind <;> rw [hkind] <;> decide
    · intro key _ _
      exact r.takesTargets_removalOf naming owner target hkind key
  · apply r.abreast_plan_removal naming owner target hdependent
    · rw [hkind]
      decide
    · intro key hvalue hkey
      exact ⟨key, hvalue, hkey, r.takesLinks_removalOf naming owner target hkind hkey⟩
  · -- a reference is no reason to delete what it refers to
    have hstays : r.removesRows = false := by simp [removesRows, hkind]
    rw [removal, hstays]
    rfl

/-- The tags of a post that are not hidden. -/
def shownTags : Relation where
  name := "tags"
  kind := .manyToMany
  target := { entity := "Tag", typeName := "Tag" }
  conditions := .raw "tags.hidden = 0" []
  isDependent := true

/-- A hidden tag is not read with the post, but its link goes with the post nevertheless, and the
tag stays. -/
theorem removal_takes_what_plan_reaches_shownTags :
    ∃ q d, shownTags.plan .english posts tags (.obj [("id", .ofInt 5)]) = .ok (some q)
      ∧ shownTags.removal .english posts tags (.obj [("id", .ofInt 5)]) = .ok (some d)
      ∧ q.conditions.predicate.text = "post_tag.post_id = ? AND (tags.hidden = 0)"
      ∧ (Statement.delete d.table d.conditions).text = "DELETE FROM post_tag WHERE post_id = ?"
      ∧ (Statement.delete d.table d.conditions).bindings = [.int32 5]
      ∧ ∀ row, ¬ d.Takes "tags" row := by
  have habreast := (removal_takes_what_plan_reaches shownTags .english posts tags rfl
    (.obj [("id", .ofInt 5)])).2.1 rfl
  obtain ⟨d, hremoval, key, hvalue, -, hlinks⟩ := habreast.exists_of_found rfl
  obtain rfl := Except.ok.inj hvalue
  obtain rfl := Option.some.inj (Except.ok.inj hremoval)
  exact ⟨_, _, rfl, hremoval, rfl, hlinks.text, hlinks.bindings, hlinks.spares (by decide)⟩

end Relation

end EntityMapper
