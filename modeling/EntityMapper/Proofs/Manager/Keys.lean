import EntityMapper.Proofs.Manager.Deletion
import EntityMapper.Proofs.Value.Carried

/-!
# Keys of deleted owners

When owners are deleted, the key of each is taken from its row as a document, and what depends on
the owner is deleted by what comes back of that document. So the statement binds the key that was
read just if JSON has a form for it; an identifier, an instant, a day or a string of octets is bound
as something else.

What a deletion executes is told here for all that a driver may answer, rows without a key included:
such a row may cut the deletion short (`PlaysUnless`), but it never leaves the promised sequence.

## Structure

* `key?_eq` — the key of an owner, as its row gives it.
* `bindings_deletion` — the statement for an owner binds what comes back of its key.
* `deletes_bind_carried_keys` — all that a deletion executes is among the statements that it
  promises, by `exists_executed`.
-/

namespace EntityMapper

/-! ## The key of a row

What `Row.key?` makes of the value in the key column, by way of `Value.carried`. -/

namespace Row

/-- The last value in a column is what counts, unless nothing comes back of it but null. -/
theorem key?_eq {row : Row} {column : String} {before after : List (String × Value)} {v : Value}
    (hcells : row.cells = before ++ (column, v) :: after) (hlast : column ∉ after.map Prod.fst) :
    row.key? column = if v.carried.isNull then none else some v.carried := by
  -- of all values in the column, this is the last one
  have hnamed : row.named column = valuesUnder column before ++ [v] := by
    rw [named, hcells, valuesUnder_append, valuesUnder_cons_self, valuesUnder_eq_nil_iff.mpr hlast]
  have hget : row.toJson.get? column = some v.toJson := by
    rw [get?_toJson, hnamed, List.getLast?_append]
    rfl
  rw [key?, hget, Option.map_some, Value.carried]
  cases hnull : (Value.ofJson v.toJson).isNull <;> simp [Option.filter, hnull]

end Row

namespace Relation

variable (r : Relation) (naming : Naming) (owner target : Schema)

/-- The statement binds the key of the owner before all else. -/
theorem bindings_deletion {key : Value} (hkey : key.isNull = false) :
    (r.deletion naming owner target key).bindings =
      key :: (if r.kind.needsJoinTable then Condition.empty
        else r.conditions).predicate.bindings := by
  have hscopes := r.removal_scopes naming owner target hkey
  rw [deletion, Statement.bindings, Statement.sql, Condition.clause_of_ne hscopes.ne,
    ← hscopes.bindings]
  rfl

end Relation

namespace Manager

open Scripted (answer play)

variable {m : Manager Scripted} {owner : Schema} {type : EntityType} {d : Declarations}

/-! ## What is bound

The statements are those of `deletes_dependents_first`, and each of them binds the key before
anything else (`bindings_deletion`). -/

/-- **Keys are bound as they come back of JSON.** Whatever the driver answers, a deletion executes a
beginning of this sequence: the owners are read, what depends on each is deleted, and then the
owners are. For an owner in whose key column `v` is read there is one deletion by each relation, and
it binds what comes back of `v`; there is none if null comes back. That is `v` itself, up to the
width of an integer, just if JSON has a form for it. -/
theorem deletes_bind_carried_keys (hvalid : Declarations.declare type.name type.relations = .ok d)
    (hagrees : m.relations.Agrees type d) {action : Action (Manager Scripted) Nat}
    {conditions : Condition}
    (hdeletes : Deletes type action conditions) {targets : List Schema} {fault? : Option Error}
    (hsurvey : survey (typesToDelete type d.dependents) m = (owner :: targets, fault?)) :
    (∃ executed, (action.perform m).2.driver.log = m.driver.log ++ executed
      ∧ executed <+: ownersRead d.dependents owner conditions
        ++ removals m.naming d.dependents owner targets (answeredOwners m.driver.script)
        ++ [.delete owner.table conditions])
    ∧ ∀ (r : Relation) (target : Schema) (row : Row) (before after : List (String × Value))
      (v : Value),
        row.cells = before ++ (owner.key, v) :: after → owner.key ∉ after.map Prod.fst →
        (r.deletions m.naming owner target [row] =
          if v.carried.isNull then [] else [r.deletion m.naming owner target v.carried])
        ∧ (v.carried.isNull = false → ∃ besides,
          (r.deletion m.naming owner target v.carried).bindings = v.carried :: besides)
        ∧ (v.carried.Alike v ↔ v.hasJsonForm = true) := by
  constructor
  · obtain ⟨everyRow, hguard, hperform⟩ := hdeletes.exists_deleteRows
    -- a row without a key may cut the deletion short, but what is executed is promised all the same
    have hplays : PlaysUnless True _ _ _ _ :=
      plays_deleteRows hvalid hagrees hguard (fun _ _ _ => .inr trivial) hsurvey
    obtain ⟨executed, hprefix, hlog⟩ := hplays.exists_executed
    refine ⟨executed, by rw [hperform, hlog], hprefix.trans ?_⟩
    cases fault? with
    | none => exact List.prefix_rfl
    | some e => exact (List.append_nil _).symm ▸ List.prefix_append _ _
  · intro r target row before after v hcells hlast
    refine ⟨?_, fun hkey => ⟨_, r.bindings_deletion m.naming owner target hkey⟩,
      v.alike_carried_iff⟩
    rw [Relation.deletions, List.filterMap_cons, Row.key?_eq hcells hlast]
    cases v.carried.isNull <;> rfl

/-- Whole numbers are bound as they are; an identifier of 128 bits would not be. -/
theorem deletes_bind_carried_keys_twoPosts :
    let m := onTables ["posts", "comments", "tags"] [.ok twoPosts, .ok {}, .error deadlock]
    let action := delete discussedPost (.condition (.equals "author_id" (.int32 7)))
    (∃ executed, (action.perform m).2.driver.log = executed
      ∧ executed <+:
        [.select "posts" ((Query.ofTable "posts").withConditions (.equals "author_id" (.int32 7))),
          .delete "comments" (.equals "post_id" (.int32 1)),
            .delete "comments" (.equals "post_id" (.int32 2)),
          .delete "post_tag" (.equals "post_id" (.int32 1)),
            .delete "post_tag" (.equals "post_id" (.int32 2)),
          .delete "posts" (.equals "author_id" (.int32 7))])
      ∧ ¬ (Value.uuid ⟨7⟩).carried.Alike (.uuid ⟨7⟩) := by
  intro m action
  have hagrees : m.relations.Agrees discussedPost ⟨"Post", discussedPost.relations⟩ :=
    agrees_onTables _ _ _ _
  have hdeletes : Deletes discussedPost action (.equals "author_id" (.int32 7)) := .some rfl rfl
  -- all three schemas are found
  have hsurvey : survey (typesToDelete discussedPost
      (Declarations.mk "Post" discussedPost.relations).dependents) m =
        ([keyed "Post" "posts", keyed "Comment" "comments", keyed "Tag" "tags"], none) := by
    decide +kernel
  obtain ⟨⟨executed, hlog, hprefix⟩, hkeys⟩ :=
    deletes_bind_carried_keys rfl hagrees hdeletes hsurvey
  obtain ⟨-, -, halike⟩ :=
    hkeys (Blog.leadsTo .oneToMany "comments" (Blog.comment "")) (keyed "Tag" "tags")
    ⟨[("id", .uuid ⟨7⟩)]⟩ [] [] _ rfl (by simp)
  exact ⟨⟨executed, hlog, hprefix⟩, fun h => nomatch halike.mp h⟩

/-- A post whose key is an identifier of 128 bits. -/
def identifiedPost : ResultSet where
  rows := [⟨[("id", .uuid ⟨7⟩)]⟩]

/-- The comments of a post go by its identifier, but no statement binds it: what is bound is its
text. -/
theorem identifier_bound_as_text :
    let m := onTables ["posts", "comments", "tags"] [.ok identifiedPost]
    let action := delete discussedPost (.condition (.equals "author_id" (.int32 7)))
    (action.perform m).2.driver.log.map (fun s => (s.text, s.bindings.map Value.display)) =
        [("SELECT * FROM posts WHERE author_id = ?", ["7"]),
          ("DELETE FROM comments WHERE post_id = ?", ["00000000-0000-0000-0000-000000000007"]),
          ("DELETE FROM post_tag WHERE post_id = ?", ["00000000-0000-0000-0000-000000000007"]),
          ("DELETE FROM posts WHERE author_id = ?", ["7"])]
      ∧ ∀ s ∈ (action.perform m).2.driver.log, ∀ v ∈ s.bindings, ¬ v.Alike (.uuid ⟨7⟩) := by
  intro m action
  -- no value that is bound looks like the identifier, as it would if it were one
  have hshown : ∀ s ∈ (action.perform m).2.driver.log, ∀ shown ∈ s.bindings.map Value.display,
      shown ≠ (Value.uuid ⟨7⟩).display := by
    decide +kernel
  refine ⟨by decide +kernel, fun s hs v hv halike => ?_⟩
  obtain rfl | ⟨n, -, hn⟩ := halike
  · exact hshown s hs _ (List.mem_map_of_mem hv) rfl
  · cases hn

end Manager

end EntityMapper
